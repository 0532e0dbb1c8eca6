import SchemaPages.Proofs.FirstRoutes
import SchemaPages.Proofs.Import.Reports
/-!
# The limit of nesting and the order of imports

A source is read where the walk through the imports meets it first, which is at the end of the first
path to it. So the order of imports decides how deep it lies, and whether the limit is reached.

* `within_of_follows`, `overlong_of_stops`: what is read lies within the limit, on the first path to
  it; what a full stack shows is a first path;
* `Reordered`: the same schemas in the same places, but for the order of their imports;
* `resolve_places`, `perm_targets`: references lead to the same sources;
* `Rerouted`: a source whose first path is within the limit in one order and not in the other;
* `limit_by_first_paths`: all that the order of imports changes.
-/

namespace SchemaPages.Import

open DepthFirst

variable {fs fs' : FileSystem} {options : Options} {r r' : Root} {o o' : Origin}

/-! ## 1. First paths -/

/-- **The first path to a source**, in the order of the import lists. -/
abbrev FirstPath (fs : FileSystem) (options : Options) (r : Root) (path : List Source) : Prop :=
  FirstRoute (r.targets fs options) r.source path

theorem simplePath_iff {path : List Source} :
    SimplePath fs options r path ↔ Route (r.targets fs options) r.source path :=
  ⟨fun h => ⟨h.first, h.nodup, h.edges⟩, fun h => ⟨h.first, h.nodup, h.edges⟩⟩

/-- The first path to a source is not longer than the limit. -/
def Near (fs : FileSystem) (options : Options) (r : Root) (s : Source) : Prop :=
  ∃ path, FirstPath fs options r path ∧ path.getLast? = some s ∧ path.length ≤ options.limit

/-- The walk inside of a source that it enters goes through the targets of the source. -/
theorem targets_of_enter {s : Source} {schema : Schema} {dir : String} {stack inner : ImportStack}
    (hi : options.loadImports = true) (other : s ≠ r.source) (read : s.read fs = .ok (schema, dir))
    (pushed : stack.push s.displayPath = .ok inner) :
    r.targets fs options s = targetsOf fs schema.imports dir inner.top :=
  (targets_of_ne hi other).trans (targets_of_push read pushed)

section Follow

/-- Where a walk through the imports stands, and what it has loaded. -/
structure Position (fs : FileSystem) (options : Options) (r : Root) (stack : ImportStack)
    (loaded : Loaded) (t : Tour Source) (trail : List Source) (here : Source)
    (gone : List Source) : Prop where
  tracks : Tracks fs r.source t loaded
  path : Trail fs options r stack t trail here
  stands : Stands (r.targets fs options) r.source t trail here gone

variable {stack inner : ImportStack} {loaded next : Loaded} {t t' : Tour Source}
  {trail gone todo : List Source} {here s : Source}

/-- After some references the walk stands at the same source. -/
theorem position_of_visits {rest : List Source} (h : Position fs options r stack loaded t trail here gone)
    (tour : Visits (r.targets fs options) todo t t')
    (edges : r.targets fs options here = gone ++ (todo ++ rest)) (tracks : Tracks fs r.source t' next) :
    Position fs options r stack next t' trail here (gone ++ todo) where
  tracks := tracks
  path := trail_mono h.path fun _ ha => met_of_visits tour ha
  stands := stands_of_visits h.stands edges tour

/-- After one reference the walk stands at the same source, with one of its targets behind it. -/
theorem position_of_one {dir reference : String} {rest : List Source}
    (hi : options.loadImports = true) (h : Position fs options r stack loaded t trail here gone)
    (leads : resolve fs reference dir stack.top = .ok s)
    (edges : r.targets fs options here = gone ++ s :: rest)
    (run : Follows fs stack dir [reference] loaded next) :
    ∃ u, Visits (r.targets fs options) [s] t u ∧
      Position fs options r stack next u trail here (gone ++ [s]) := by
  obtain ⟨u, tour, tracks⟩ := visits_of_follows (fun s hs => targets_of_ne hi hs) h.tracks run
  rw [targetsOf_cons leads] at tour
  exact ⟨u, tour, position_of_visits h tour edges tracks⟩

section Enter

variable {rest : List Source} (h : Position fs options r stack loaded t trail here gone)
  (edges : r.targets fs options here = gone ++ s :: rest) (fresh : s ∉ t.met)
include h edges fresh

/-- The walk goes into a source that it meets first. -/
theorem position_enter (located : s.Located fs) (pushed : stack.push s.displayPath = .ok inner) :
    Position fs options r inner { loaded with seen := s.key :: loaded.seen } (t.enter s) (trail ++ [s]) s
      [] where
  tracks := tracks_enter h.tracks located
  path := trail_push h.path fresh (by simp [edges]) pushed
  stands := stands_enter h.stands edges fresh

/-- A source that the stack has room for is near. -/
theorem near_of_push (pushed : stack.push s.displayPath = .ok inner) : Near fs options r s := by
  have longer := trail_push h.path fresh (by simp [edges]) pushed
  refine ⟨trail ++ [s], firstRoute_enter h.stands edges fresh, longer.last, ?_⟩
  rw [length_of_trail longer, ← longer.limit]
  exact longer.fits

end Enter

/-- **All that is read is near.** -/
theorem within_of_follows (hi : options.loadImports = true) {dir : String} {references : List String}
    {result : Loaded} (h : Position fs options r stack loaded t trail here gone)
    (edges : r.targets fs options here = gone ++ targetsOf fs references dir stack.top)
    (tour : Visits (r.targets fs options) (targetsOf fs references dir stack.top) t t')
    (run : Follows fs stack dir references loaded result) :
    ∀ s ∈ t'.met, s ∈ t.met ∨ Near fs options r s := by
  induction run generalizing t t' trail here gone with
  | done =>
      cases tour
      exact fun s hs => Or.inl hs
  | met leads seen _ ih =>
      rw [targetsOf_cons leads] at edges tour
      cases tour with
      | pass met later =>
          have there := position_of_visits h (.pass met (.stop t)) edges h.tracks
          exact ih there (by simp [edges]) later
      | enter fresh =>
          exact absurd ((mem_seen_iff h.tracks (located_of_resolve leads)).mp seen) fresh
  | enter leads new read pushed below _ ihBelow ihLater =>
      have located := located_of_resolve leads
      obtain ⟨fresh, other⟩ := fresh_of_new h.tracks located new
      rw [targetsOf_cons leads] at edges tour
      cases tour with
      | pass met => exact absurd met fresh
      | @enter _ _ _ u _ _ within after =>
          have inner_edges := targets_of_enter hi other read pushed
          have near := near_of_push h edges fresh pushed
          have deeper := ihBelow (position_enter h edges fresh located pushed) inner_edges
            (inner_edges ▸ within)
          obtain ⟨u', tour', there⟩ := position_of_one hi h leads edges
            (.enter leads new read pushed below .done)
          cases visits_unique tour' (.enter fresh within (.stop _))
          intro a ha
          rcases ihLater there (by simp [edges]) after a ha with ha | near'
          · rcases deeper a ha with entered | near'
            · rcases List.mem_cons.mp entered with rfl | ha
              · exact Or.inr near
              · exact Or.inl ha
            · exact Or.inr near'
          · exact Or.inr near'

/-- **A full stack shows a first path**, with the source that there is no room for at its end. -/
theorem overlong_of_stops (hi : options.loadImports = true) {dir : String} {references : List String}
    {limit : Nat} {chain : List String} (h : Position fs options r stack loaded t trail here gone)
    (edges : r.targets fs options here = gone ++ targetsOf fs references dir stack.top)
    (run : Stops fs stack dir references loaded (.tooDeep limit chain)) :
    ∃ path, FirstPath fs options r path ∧ Overlong fs options r chain path := by
  generalize reported : LoadError.tooDeep limit chain = e at run
  induction run generalizing t trail here gone with
  | unresolved failed =>
      rcases resolve_error failed with document | ⟨_, rfl⟩
      · subst reported
        exact document.elim
      · cases reported
  | unread leads new failed =>
      obtain ⟨-, other⟩ := fresh_of_new h.tracks (located_of_resolve leads) new
      subst reported
      exact (ofDocument_of_read (r := r) ((read_of_ne other).trans failed)).elim
  | @full _ _ _ _ _ _ s _ _ leads new _ failed =>
      obtain ⟨fresh, -⟩ := fresh_of_new h.tracks (located_of_resolve leads) new
      rw [targetsOf_cons leads] at edges
      obtain ⟨_, rfl, long⟩ := overlong_of_push h.path fresh (by simp [edges]) failed
      cases reported
      exact ⟨trail ++ [s], firstRoute_enter h.stands edges fresh, long⟩
  | inside leads new read pushed _ ih =>
      have located := located_of_resolve leads
      obtain ⟨fresh, other⟩ := fresh_of_new h.tracks located new
      rw [targetsOf_cons leads] at edges
      exact ih (position_enter h edges fresh located pushed)
        (targets_of_enter hi other read pushed) reported
  | later first _ ih =>
      obtain ⟨s, leads⟩ := leads_of_follows first
      rw [targetsOf_cons leads] at edges
      obtain ⟨u, -, later⟩ := position_of_one hi h leads edges first
      exact ih later (by simp [edges]) reported

end Follow

section Views

/-- The walk begins at the root. -/
theorem position_start {stack : ImportStack} (root : o.root fs = .ok r)
    (pushed : ({ limit := options.limit } : ImportStack).push r.path = .ok stack) :
    Position fs options r stack { seen := [r.path] } ⟨[r.source], []⟩ [r.source] r.source [] where
  tracks := tracks_start (path_ne_of_root root).1
  path := trail_start pushed
  stands := stands_start r.source

/-- **What has been loaded is near**, all that the root leads to. -/
theorem near_of_view {v : View} (hi : options.loadImports = true) (root : o.root fs = .ok r)
    (view : o.view fs options = .ok v) {s : Source} (hs : r.Includes fs options s) :
    Near fs options r s := by
  rw [view_eq, root] at view
  obtain ⟨stack, loaded, pushed, run, -⟩ := (closure_ok_iff hi).mp view
  have start := position_start root pushed
  have edges : r.targets fs options r.source =
      targetsOf fs r.schema.imports r.dir stack.top := by
    rw [top_of_push pushed]
    exact targets_source hi
  obtain ⟨t, tour, -⟩ := visits_of_follows (fun s hs => targets_of_ne hi hs) start.tracks run
  have met : s ∈ t.met := by
    have whole : r.Toured fs options t := by
      rw [Root.Toured, edges]
      exact tour
    exact (met_iff_finished whole).mpr (((ordered_of_visits_root whole).2.1 s).mpr hs)
  rcases within_of_follows hi start edges tour run s met with begun | near
  · obtain rfl := List.mem_singleton.mp begun
    refine ⟨[r.source], firstRoute_root, rfl, ?_⟩
    rw [length_of_trail start.path, ← start.path.limit]
    exact start.path.fits
  · exact near

/-- **What a full stack reports** is the first path to a source that is not near. -/
theorem overlong_of_view {limit : Nat} {chain : List String} (root : o.root fs = .ok r)
    (view : o.view fs options = .error (.tooDeep limit chain)) :
    options.loadImports = true ∧ ∃ path, FirstPath fs options r path ∧
      Overlong fs options r chain path := by
  rw [view_eq, root] at view
  cases hi : options.loadImports with
  | false =>
      simp only [bind, Except.bind, closure, hi] at view
      cases view
  | true =>
      refine ⟨rfl, ?_⟩
      simp only [bind, Except.bind] at view
      rcases closure_error hi view with full | ⟨stack, pushed, run⟩
      · obtain ⟨_, same, long⟩ := overlong_root fs full
        cases same
        exact ⟨[r.source], firstRoute_root, long⟩
      · refine overlong_of_stops hi (position_start root pushed) ?_ run
        rw [top_of_push pushed]
        exact targets_source hi

end Views

/-! ## 2. Imports in another order -/

/-- Whether there is a directory at a place. -/
def isFolder : FileNode → Bool
  | .dir => true
  | .file _ => false

/-- Two actions fail both, or succeed both with results that go together. -/
inductive Alike {ε α : Type} (together : α → α → Prop) : Except ε α → Except ε α → Prop where
  | ok {a b : α} (results : together a b) : Alike together (.ok a) (.ok b)
  | error (e e' : ε) : Alike together (.error e) (.error e')

/-- **Imports in other orders**: the same places, and in each readable file, as in the root, the same
    imports but for their order. -/
structure Reordered (fs fs' : FileSystem) (o o' : Origin) : Prop where
  workingDirectory : fs.workingDirectory = fs'.workingDirectory
  places : ∀ p, (fs.node? p).map isFolder = (fs'.node? p).map isFolder
  schemas : ∀ s : Source, s.Located fs →
    Alike (fun a b => a.1.imports.Perm b.1.imports ∧ a.2 = b.2) (s.read fs) (s.read fs')
  roots : Alike (fun r r' => r.schema.imports.Perm r'.schema.imports ∧ r.path = r'.path ∧
    r.dir = r'.dir) (o.root fs) (o'.root fs')

theorem alike_symm {ε α : Type} {together : α → α → Prop} {x y : Except ε α}
    (symm : ∀ a b, together a b → together b a) (h : Alike together x y) : Alike together y x := by
  cases h with
  | ok results => exact .ok (symm _ _ results)
  | error e e' => exact .error e' e

/-- A file that can be read as an import can be read as a root. -/
theorem readFile_of_read {path shown : String} {found : Schema × String}
    (h : (Source.file path).read fs = .ok found) : readFile fs path shown = .ok found.1 := by
  simp only [Source.read] at h
  cases read : readFile fs path path with
  | error e => rw [read] at h; cases h
  | ok s =>
      rw [read] at h
      cases h
      exact readFile_shown read

section Places

variable (workingDirectory : fs.workingDirectory = fs'.workingDirectory)
  (places : ∀ p, (fs.node? p).map isFolder = (fs'.node? p).map isFolder)
include places

/-- Steps lead to the same place where the same places are directories. -/
theorem follow_places (p : Place) (steps : List String) : fs.follow p steps = fs'.follow p steps := by
  induction steps generalizing p with
  | nil => rfl
  | cons step rest ih =>
      have same := places p
      unfold FileSystem.follow
      cases here : fs.node? p with
      | none =>
          rw [here] at same
          rw [Option.map_eq_none_iff.mp same.symm]
      | some n =>
          rw [here] at same
          obtain ⟨n', there, kind⟩ := Option.map_eq_some_iff.mp same.symm
          rw [there]
          cases n <;> cases n' <;> simp_all [isFolder]

theorem located_places {s : Source} (h : s.Located fs) : s.Located fs' := by
  cases s with
  | basicTypes => trivial
  | file path =>
      obtain ⟨p, n, found, rfl⟩ := h
      have same := places p
      rw [found] at same
      obtain ⟨n', there, -⟩ := Option.map_eq_some_iff.mp same.symm
      exact ⟨p, n', there, rfl⟩

include workingDirectory

/-- **Paths lead to the same places**, and to directories where they led to directories. -/
theorem find_places (path : String) :
    (∃ e, fs.find path = .error e ∧ fs'.find path = .error e) ∨
      ∃ p n n', fs.find path = .ok (p, n) ∧ fs'.find path = .ok (p, n') ∧
        isFolder n = isFolder n' := by
  have located : fs.locate path = fs'.locate path := by
    unfold FileSystem.locate
    rw [follow_places places, workingDirectory]
  unfold FileSystem.find
  rw [located]
  cases fs'.locate path with
  | error e => exact Or.inl ⟨e, rfl, rfl⟩
  | ok p =>
      have same := places p
      simp only [bind, Except.bind]
      cases here : fs.node? p with
      | none =>
          rw [here] at same
          rw [Option.map_eq_none_iff.mp same.symm]
          exact Or.inl ⟨_, rfl, rfl⟩
      | some n =>
          rw [here] at same
          obtain ⟨n', there, kind⟩ := Option.map_eq_some_iff.mp same.symm
          rw [there]
          cases n with
          | dir =>
              cases n' with
              | dir => exact Or.inr ⟨p, .dir, .dir, rfl, rfl, rfl⟩
              | file c => cases kind
          | file c =>
              cases n' with
              | dir => cases kind
              | file c' =>
                  dsimp only
                  split
                  · exact Or.inl ⟨_, rfl, rfl⟩
                  · exact Or.inr ⟨p, .file c, .file c', rfl, rfl, rfl⟩

theorem isFile_places (path : String) : fs.isFile path = fs'.isFile path := by
  unfold FileSystem.isFile
  rcases find_places workingDirectory places path with ⟨e, found, found'⟩ |
    ⟨p, n, n', found, found', kind⟩
  · rw [found, found']
  · rw [found, found']
    cases n <;> cases n' <;> first | rfl | cases kind

theorem canonical_places (path : String) : fs.canonical path = fs'.canonical path := by
  unfold FileSystem.canonical
  rcases find_places workingDirectory places path with ⟨e, found, found'⟩ |
    ⟨p, n, n', found, found', -⟩
  · rw [found, found']
  · rw [found, found']
    rfl

/-- **References lead to the same sources.** -/
theorem resolve_places (reference dir importer : String) :
    resolve fs reference dir importer = resolve fs' reference dir importer := by
  unfold resolve
  simp only [isFile_places workingDirectory places, canonical_places workingDirectory places]

/-- **The roots of files** need not be compared apart from the files. -/
theorem roots_places (schemas : ∀ s : Source, s.Located fs →
      Alike (fun a b => a.1.imports.Perm b.1.imports ∧ a.2 = b.2) (s.read fs) (s.read fs'))
    (path : String) :
    Alike (fun r r' => r.schema.imports.Perm r'.schema.imports ∧ r.path = r'.path ∧ r.dir = r'.dir)
      (Root.ofFile fs path) (Root.ofFile fs' path) := by
  have canonical := canonical_places workingDirectory places path
  unfold Root.ofFile
  rw [← canonical]
  cases there : fs.canonical path with
  | error e => exact .error _ _
  | ok found =>
      have both := schemas (.file found) (located_of_canonical there)
      simp only [Except.mapError, bind, Except.bind]
      cases read : readFile fs found path with
      | error e =>
          cases read' : readFile fs' found path with
          | error e' => exact .error e e'
          | ok s' =>
              rw [read_file read'] at both
              generalize seen : (Source.file found).read fs = x at both
              cases both with
              | ok _ => rw [readFile_of_read seen] at read; cases read
      | ok s =>
          rw [read_file read] at both
          generalize seen : (Source.file found).read fs' = x at both
          cases both with
          | ok results =>
              rw [readFile_of_read seen]
              exact .ok ⟨results.1, rfl, rfl⟩

end Places

section Edges

variable (h : Reordered fs fs' o o')
include h

theorem reordered_symm : Reordered fs' fs o' o where
  workingDirectory := h.workingDirectory.symm
  places p := (h.places p).symm
  schemas s hs := alike_symm (fun _ _ both => ⟨both.1.symm, both.2.symm⟩)
    (h.schemas s (located_places (fun p => (h.places p).symm) hs))
  roots := alike_symm (fun _ _ all => ⟨all.1.symm, all.2.1.symm, all.2.2.symm⟩) h.roots

/-- The roots of two orders have their path and directory in common. -/
theorem root_reordered (root : o.root fs = .ok r) : ∃ r', o'.root fs' = .ok r' ∧
    r.schema.imports.Perm r'.schema.imports ∧ r.path = r'.path ∧ r.dir = r'.dir := by
  have roots := h.roots
  rw [root] at roots
  generalize o'.root fs' = found at roots
  cases roots with
  | ok all => exact ⟨_, rfl, all⟩

variable (root : o.root fs = .ok r) (root' : o'.root fs' = .ok r')
include root root'

theorem source_reordered : r'.source = r.source := by
  obtain ⟨_, same, _, path, _⟩ := root_reordered h root
  rw [root'] at same
  cases same
  exact congrArg Source.file path.symm

/-- **Each source has the same targets**, in another order. -/
theorem perm_targets {s : Source} (hs : s = r.source ∨ s.Located fs) :
    (r.targets fs options s).Perm (r'.targets fs' options s) := by
  obtain ⟨_, same, permuted, path, dir⟩ := root_reordered h root
  rw [root'] at same
  cases same
  have resolved : ∀ {references references' : List String} (dir importer : String),
      references.Perm references' →
        (targetsOf fs references dir importer).Perm (targetsOf fs' references' dir importer) := by
    intro references references' dir importer perm
    simp only [targetsOf, resolve_places h.workingDirectory h.places]
    exact perm.filterMap _
  unfold Root.targets
  rw [source_reordered h root root']
  split
  · split
    · rw [← path, ← dir]
      exact resolved r.dir r.path permuted
    · rename_i other
      have schemas := h.schemas s (hs.resolve_left other)
      unfold Source.targets
      generalize s.read fs = found at schemas
      generalize s.read fs' = found' at schemas
      cases schemas with
      | error => exact .refl _
      | @ok a b both =>
          obtain ⟨schema, dir⟩ := a
          obtain ⟨schema', dir'⟩ := b
          obtain ⟨permuted, rfl⟩ := both
          exact resolved dir s.displayPath permuted
  · exact .refl _

theorem includes_reordered (hi : options.loadImports = true) {s : Source}
    (hs : r.Includes fs options s) : r'.Includes fs' options s := by
  rw [Root.Includes, source_reordered h root root']
  induction hs with
  | refl => exact .refl
  | tail reached edge ih =>
      exact ih.tail ((perm_targets h root root' (located_of_includes hi reached)).mem_iff.mp edge)

/-- **Paths of imports are the same** in both orders. -/
theorem simplePath_reordered (hi : options.loadImports = true) {path : List Source} :
    SimplePath fs options r path → SimplePath fs' options r' path := by
  rw [simplePath_iff, simplePath_iff, source_reordered h root root']
  exact fun route => route_congr route fun a reached b edge =>
    (perm_targets h root root' (located_of_includes hi reached)).mem_iff.mp edge

end Edges

/-! ## 3. What the order of imports changes -/

/-- **The first path to a source has changed**: in the one order it is within the limit, in the other
    it is the chain, with one source more than the limit allows. -/
structure Rerouted (fs fs' : FileSystem) (options : Options) (r r' : Root) (chain : List String)
    (s : Source) : Prop where
  near : ∃ path, FirstPath fs options r path ∧ path.getLast? = some s ∧
    path.length ≤ options.limit
  far : ∃ path, FirstPath fs' options r' path ∧ path.getLast? = some s ∧
    path.length = options.limit + 1 ∧ chain = path.map Source.displayPath

section Orders

/-- **Where one order is loaded and the other fills the stack**, a first path has changed. -/
theorem exists_rerouted {v : View} {limit : Nat} {chain : List String}
    (h : Reordered fs fs' o o') (view : o.view fs options = .ok v)
    (view' : o'.view fs' options = .error (.tooDeep limit chain)) :
    ∃ r r' s, o.root fs = .ok r ∧ o'.root fs' = .ok r' ∧ Rerouted fs fs' options r r' chain s := by
  obtain ⟨r, root, -⟩ := exists_root_of_view view
  obtain ⟨r', root', -⟩ := root_reordered h root
  obtain ⟨hi, path, first, long⟩ := overlong_of_view root' view'
  have some_last : path ≠ [] := by
    rintro rfl
    cases long.first
  obtain ⟨s, last⟩ : ∃ s, path.getLast? = some s := ⟨_, List.getLast?_eq_some_getLast some_last⟩
  have reached : r'.Includes fs' options s :=
    includes_of_simplePath long.toSimplePath (List.mem_of_getLast? last)
  have included := includes_reordered (reordered_symm h) root' root hi reached
  exact ⟨r, r', s, root, root', near_of_view hi root view included, path, first, last, long.length,
    long.shown⟩

variable {limit : Nat} {chain : List String}

/-- No path is longer than the limit: no stack is ever full. -/
theorem ne_tooDeep_of_short (root : o.root fs = .ok r)
    (short : ∀ path, SimplePath fs options r path → path.length ≤ options.limit) :
    o.view fs options ≠ .error (.tooDeep limit chain) := by
  intro view
  obtain ⟨-, path, -, long⟩ := overlong_of_view root view
  have bound := short path long.toSimplePath
  rw [long.length] at bound
  omega

/-- A source with no path within the limit is never loaded. -/
theorem ne_ok_of_far {v : View} {s : Source} (hi : options.loadImports = true)
    (root : o.root fs = .ok r) (hs : r.Includes fs options s)
    (far : ∀ path, SimplePath fs options r path → path.getLast? = some s →
      options.limit < path.length) : o.view fs options ≠ .ok v := by
  intro view
  obtain ⟨path, first, last, short⟩ := near_of_view hi root view hs
  exact absurd (far path (simplePath_iff.mpr first.toRoute) last) (Nat.not_lt.mpr short)

/-- **Loading succeeds exactly if every first path is within the limit**, where all can be read. -/
theorem view_ok_iff (hi : options.loadImports = true) (root : o.root fs = .ok r)
    (readable : Readable fs options r) :
    (∃ v, o.view fs options = .ok v) ↔
      ∀ path, FirstPath fs options r path → path.length ≤ options.limit := by
  constructor
  · rintro ⟨v, view⟩ path first
    have some_last : path ≠ [] := by
      rintro rfl
      cases first.first
    have last := List.getLast?_eq_some_getLast some_last
    have reached : r.Includes fs options (path.getLast some_last) :=
      reaches_of_route first.toRoute last
    obtain ⟨other, first', last', short⟩ := near_of_view hi root view reached
    rw [firstRoute_unique first first' (last.trans last'.symm)]
    exact short
  · intro near
    cases view : o.view fs options with
    | ok v => exact ⟨v, rfl⟩
    | error e =>
        exfalso
        obtain ⟨chain, _, rfl, -⟩ := overlong_of_readable hi root readable view
        obtain ⟨-, path, first, long⟩ := overlong_of_view root view
        have bound := near path first
        rw [long.length] at bound
        omega

end Orders

/-- **What the limit takes from the order of imports.** Where one order is loaded and another fills
    the stack, the chain that is reported is the first path to some source in the one order, and in
    the other the first path to this source is within the limit; so there is more than one path to
    it. It never happens where no path of distinct sources is longer than the limit, since then no
    stack is full, nor where some source has no path within the limit, since then nothing is loaded.
    Where all can be read, loading succeeds exactly if every first path is within the limit, and fills
    the stack exactly if one is not. -/
theorem limit_by_first_paths (fs fs' : FileSystem) (options : Options) (o o' : Origin)
    (h : Reordered fs fs' o o') :
    (∀ v limit chain, o.view fs options = .ok v →
      o'.view fs' options = .error (.tooDeep limit chain) →
        ∃ r r' s, o.root fs = .ok r ∧ o'.root fs' = .ok r' ∧
          Rerouted fs fs' options r r' chain s) ∧
    (∀ v limit chain, o'.view fs' options = .ok v →
      o.view fs options = .error (.tooDeep limit chain) →
        ∃ r r' s, o.root fs = .ok r ∧ o'.root fs' = .ok r' ∧
          Rerouted fs' fs options r' r chain s) ∧
    ∀ r, o.root fs = .ok r →
      ((∀ path, SimplePath fs options r path → path.length ≤ options.limit) →
        ∀ limit chain, o.view fs options ≠ .error (.tooDeep limit chain) ∧
          o'.view fs' options ≠ .error (.tooDeep limit chain)) ∧
      (options.loadImports = true →
        (∀ s, r.Includes fs options s →
          (∀ path, SimplePath fs options r path → path.getLast? = some s →
            options.limit < path.length) →
          ∀ v, o.view fs options ≠ .ok v ∧ o'.view fs' options ≠ .ok v) ∧
        (Readable fs options r →
          ((∃ v, o.view fs options = .ok v) ↔
            ∀ path, FirstPath fs options r path → path.length ≤ options.limit) ∧
          ((∃ limit chain, o.view fs options = .error (.tooDeep limit chain)) ↔
            ∃ path, FirstPath fs options r path ∧ options.limit < path.length))) := by
  refine ⟨fun v limit chain => exists_rerouted h, fun v limit chain view view' => ?_,
    fun r root => ?_⟩
  · obtain ⟨r', r, s, root', root, rerouted⟩ := exists_rerouted (reordered_symm h) view view'
    exact ⟨r, r', s, root, root', rerouted⟩
  obtain ⟨r', root', -⟩ := root_reordered h root
  have h' := reordered_symm h
  refine ⟨fun short limit chain => ⟨ne_tooDeep_of_short root short, fun view' => ?_⟩,
    fun hi => ⟨fun s hs far v => ⟨ne_ok_of_far hi root hs far, ?_⟩, fun readable => ?_⟩⟩
  · have hi := (overlong_of_view root' view').1
    exact ne_tooDeep_of_short root'
      (fun path simple => short path (simplePath_reordered h' root' root hi simple)) view'
  · exact ne_ok_of_far hi root' (includes_reordered h root root' hi hs)
      fun path simple => far path (simplePath_reordered h' root' root hi simple)
  · have loads := view_ok_iff hi root readable
    refine ⟨loads, ?_, ?_⟩
    · rintro ⟨limit, chain, view⟩
      obtain ⟨-, path, first, long⟩ := overlong_of_view root view
      exact ⟨path, first, by rw [long.length]; omega⟩
    · rintro ⟨path, first, long⟩
      cases view : o.view fs options with
      | ok v => exact absurd (loads.mp ⟨v, view⟩ path first) (Nat.not_le.mpr long)
      | error e =>
          obtain ⟨chain, _, rfl, -⟩ := overlong_of_readable hi root readable view
          exact ⟨_, _, rfl⟩

/-- A root that imports two files, of which one imports the other. -/
def sharedFiles (imports : String) : FileSystem where
  nodes := [
    (["r.json"], .file (.text
      ("\x7b\"id\":\"r\",\"name\":\"r\",\"imports\":" ++ imports ++ "\x7d"))),
    (["a.json"], .file (.text "\x7b\"id\":\"a\",\"name\":\"a\",\"imports\":\"c.json\"\x7d")),
    (["c.json"], .file (.text "\x7b\"id\":\"c\",\"name\":\"c\"\x7d"))]

/-- The root imports the shared file first. -/
def nearFirst : FileSystem := sharedFiles "[\"c.json\",\"a.json\"]"

/-- The root imports it last. -/
def farFirst : FileSystem := sharedFiles "[\"a.json\",\"c.json\"]"

/-- The imports of what is read, and where they begin. -/
def importsIn {ε : Type} (read : Except ε (Schema × String)) : Option (List String × String) :=
  read.toOption.map fun (schema, dir) => (schema.imports, dir)

/-- Two import lists begin at the same place and differ in their order alone. -/
def samePermuted : Option (List String × String) → Option (List String × String) → Bool
  | some (l, dir), some (l', dir') => l.isPerm l' && dir == dir'
  | none, none => true
  | _, _ => false

theorem alike_of_samePermuted {ε : Type} {x y : Except ε (Schema × String)}
    (h : samePermuted (importsIn x) (importsIn y) = true) :
    Alike (fun a b => a.1.imports.Perm b.1.imports ∧ a.2 = b.2) x y := by
  cases x with
  | error e =>
      cases y with
      | error e' => exact .error e e'
      | ok b => cases h
  | ok a =>
      cases y with
      | error e' => cases h
      | ok b =>
          obtain ⟨perm, dir⟩ := Bool.and_eq_true_iff.mp h
          exact .ok ⟨List.isPerm_iff.mp perm, eq_of_beq dir⟩

/-- The three files can be read in both orders, and nothing else. -/
theorem read_shared (path : String) (h : path ∈ knownKeys nearFirst) : samePermuted
    (importsIn ((Source.file path).read nearFirst))
    (importsIn ((Source.file path).read farFirst)) = true := by
  have known : knownKeys nearFirst = ["builtin:types", "/", "/r.json", "/a.json", "/c.json"] := by
    decide +kernel
  rw [known] at h
  simp only [List.mem_cons, List.not_mem_nil, or_false] at h
  rcases h with rfl | rfl | rfl | rfl | rfl <;> decide +kernel

theorem places_shared (p : Place) :
    (nearFirst.node? p).map isFolder = (farFirst.node? p).map isFolder := by
  unfold FileSystem.node? nearFirst farFirst sharedFiles
  split
  · rfl
  · dsimp only [List.lookup]
    split
    · rfl
    · rfl

theorem reordered_shared :
    Reordered nearFirst farFirst (.file "r.json") (.file "r.json") := by
  have schemas : ∀ s : Source, s.Located nearFirst →
      Alike (fun a b => a.1.imports.Perm b.1.imports ∧ a.2 = b.2) (s.read nearFirst)
        (s.read farFirst) := by
    intro s located
    cases s with
    | basicTypes => exact .ok ⟨.refl _, rfl⟩
    | file path => exact alike_of_samePermuted (read_shared path (key_mem_knownKeys located))
  have same : nearFirst.workingDirectory = farFirst.workingDirectory := rfl
  exact ⟨same, places_shared, schemas, roots_places same places_shared schemas "r.json"⟩

/-- What loading with room for two sources comes to: the schemas that are loaded, or the chain of a
    full stack. -/
def outcome (fs : FileSystem) : Option (List String ⊕ List String) :=
  match load fs { limit := 2 } "r.json" with
  | .ok v => some (.inl v.importsClosure)
  | .error (.tooDeep _ chain) => some (.inr chain)
  | .error _ => none

theorem outcome_shared :
    outcome nearFirst = some (.inl ["c", "a", "r"]) ∧
      outcome farFirst = some (.inr ["/r.json", "/a.json", "/c.json"]) := by
  constructor <;> decide +kernel

/-- One order is loaded, and the other fills the stack. -/
theorem views_shared : (∃ v, load nearFirst { limit := 2 } "r.json" = .ok v) ∧
    ∃ limit, load farFirst { limit := 2 } "r.json" =
      .error (.tooDeep limit ["/r.json", "/a.json", "/c.json"]) := by
  obtain ⟨near, far⟩ := outcome_shared
  unfold outcome at near far
  constructor
  · split at near
    · exact ⟨_, ‹_›⟩
    · cases near
    · cases near
  · split at far
    · cases far
    · cases far
      exact ⟨_, ‹_›⟩
    · cases far

/-- The shared file is near in one order, and at the end of a chain of three in the other. -/
theorem limit_by_first_paths_shared :
    Reordered nearFirst farFirst (.file "r.json") (.file "r.json") ∧
      ∃ r r' s, Origin.root nearFirst (.file "r.json") = .ok r ∧
        Origin.root farFirst (.file "r.json") = .ok r' ∧
        Rerouted nearFirst farFirst { limit := 2 } r r' ["/r.json", "/a.json", "/c.json"] s := by
  have decided := limit_by_first_paths nearFirst farFirst { limit := 2 } (.file "r.json")
    (.file "r.json") reordered_shared
  obtain ⟨⟨v, near⟩, limit, far⟩ := views_shared
  exact ⟨reordered_shared, decided.1 v limit _ near far⟩

/-- **The order of imports decides**: with the shared file first all is loaded, and with the same
    imports in the other order the stack is full. -/
theorem depth_depends_on_order :
    Reordered nearFirst farFirst (.file "r.json") (.file "r.json") ∧
      (∃ v, load nearFirst { limit := 2 } "r.json" = .ok v) ∧
      ∃ limit chain, load farFirst { limit := 2 } "r.json" = .error (.tooDeep limit chain) := by
  obtain ⟨near, limit, far⟩ := views_shared
  exact ⟨reordered_shared, near, limit, _, far⟩

end SchemaPages.Import
