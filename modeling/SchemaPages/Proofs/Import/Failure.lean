import Mathlib.Data.List.Chain
import SchemaPages.Proofs.Import.Root
/-!
# Why imports fail

Following imports fails at a reference, at a source, or at the limit of the stack. The stack always
holds a path of the graph of imports that begins at the root and meets no source twice.

* `SimplePath`: a path of the graph that meets no source twice;
* `Trail`: the path that the stack shows;
* `Overlong`: a path that the stack does not hold any more;
* `Fails`, `fails_of_stops`: where an error comes from;
* `overlong_of_fails`, `reference_of_fails`: only a full stack is reported as one, and only a
  reference that does not resolve as such;
* `fails_of_view`, `overlong_of_readable`, `view_ok_of_readable`: where loading fails, and when it
  does not.
-/

namespace SchemaPages.Import

open DepthFirst

variable {fs : FileSystem} {options : Options} {r : Root}

/-! ## 1. Paths and trails -/

/-- **A path of the graph** from the root on, on which no source stands twice. -/
structure SimplePath (fs : FileSystem) (options : Options) (r : Root) (trail : List Source) :
    Prop where
  first : trail.head? = some r.source
  nodup : trail.Nodup
  edges : trail.IsChain fun s t => t ∈ r.targets fs options s

/-- **The path that the stack shows**, from the root to the source whose references are followed. -/
structure Trail (fs : FileSystem) (options : Options) (r : Root) (stack : ImportStack)
    (t : Tour Source) (trail : List Source) (here : Source) : Prop extends
    SimplePath fs options r trail where
  paths : stack.paths = trail.map Source.displayPath
  last : trail.getLast? = some here
  met : ∀ s ∈ trail, s ∈ t.met
  limit : stack.limit = options.limit
  fits : stack.depth ≤ stack.limit

section Trail

variable {stack inner : ImportStack} {t t' : Tour Source} {trail : List Source} {here s : Source}

theorem simplePath_root : SimplePath fs options r [r.source] where
  first := rfl
  nodup := List.nodup_singleton _
  edges := List.isChain_singleton _

/-- A path goes on with a source that its last one imports, unless it has met that one. -/
theorem simplePath_snoc (h : SimplePath fs options r trail) (last : trail.getLast? = some here)
    (hs : s ∉ trail) (edge : s ∈ r.targets fs options here) :
    SimplePath fs options r (trail ++ [s]) where
  first := by
    rw [List.head?_append, h.first]
    rfl
  nodup := List.nodup_append.mpr ⟨h.nodup, List.nodup_singleton s,
    fun _ ha _ hb e => hs (List.mem_singleton.mp hb ▸ e ▸ ha)⟩
  edges := by
    refine List.isChain_append.mpr ⟨h.edges, List.isChain_singleton s, ?_⟩
    intro a ha b hb
    rw [last] at ha
    cases ha
    cases hb
    exact edge

/-- The root leads to all that a path meets. -/
theorem includes_of_simplePath (h : SimplePath fs options r trail) (hs : s ∈ trail) :
    r.Includes fs options s := by
  cases trail with
  | nil => exact absurd hs List.not_mem_nil
  | cons first rest =>
      obtain rfl : first = r.source := Option.some.inj h.first
      have leads : (r.source :: rest).IsChain (Leads (r.targets fs options)) :=
        h.edges.imp fun _ _ => .single
      rcases List.mem_cons.mp hs with rfl | hs
      · exact .refl
      · exact ((List.pairwise_cons.mp (List.isChain_iff_pairwise.mp leads)).1 s hs).to_reflTransGen

theorem top_of_trail (h : Trail fs options r stack t trail here) : stack.top = here.displayPath := by
  unfold ImportStack.top
  rw [h.paths, List.getLast?_map, h.last]
  rfl

theorem length_of_trail (h : Trail fs options r stack t trail here) :
    trail.length = stack.depth := by
  unfold ImportStack.depth
  rw [h.paths, List.length_map]

/-- The root leads to the source where the path ends. -/
theorem includes_of_trail (h : Trail fs options r stack t trail here) : r.Includes fs options here :=
  includes_of_simplePath h.toSimplePath (List.mem_of_getLast? h.last)

/-- A reference that resolves is an edge from the source where the path ends. -/
theorem edge_of_resolve (hi : options.loadImports = true) {schema : Schema} {dir reference : String}
    (h : Trail fs options r stack t trail here) (held : r.read fs here = .ok (schema, dir))
    (mem : reference ∈ schema.imports) (leads : resolve fs reference dir stack.top = .ok s) :
    s ∈ r.targets fs options here := by
  rw [top_of_trail h] at leads
  exact (mem_targets_iff hi).mpr ⟨schema, dir, held, reference, mem, leads⟩

theorem trail_mono (h : Trail fs options r stack t trail here) (hm : ∀ a ∈ t.met, a ∈ t'.met) :
    Trail fs options r stack t' trail here :=
  { h with met := fun a ha => hm a (h.met a ha) }

/-- The stack that holds the root alone. -/
theorem trail_start (h : ({ limit := options.limit } : ImportStack).push r.path = .ok stack) :
    Trail fs options r stack ⟨[r.source], []⟩ [r.source] r.source := by
  unfold ImportStack.push at h
  split at h
  · cases h
  · rename_i room
    cases h
    refine ⟨simplePath_root, rfl, rfl, fun _ ha => ha, rfl, ?_⟩
    simp only [ImportStack.depth, List.nil_append, List.length_singleton, List.length_nil] at room ⊢
    omega

/-- Entering a source makes the trail longer by it. -/
theorem trail_push (h : Trail fs options r stack t trail here) (hs : s ∉ t.met)
    (edge : s ∈ r.targets fs options here) (hpush : stack.push s.displayPath = .ok inner) :
    Trail fs options r inner (t.enter s) (trail ++ [s]) s := by
  have longer := simplePath_snoc h.toSimplePath h.last (fun hm => hs (h.met s hm)) edge
  unfold ImportStack.push at hpush
  split at hpush
  · cases hpush
  · rename_i room
    cases hpush
    refine { longer with paths := ?_, last := by simp, met := ?_, limit := h.limit, fits := ?_ }
    · simp [h.paths]
    · intro a ha
      rcases List.mem_append.mp ha with ha | ha
      · exact List.mem_cons_of_mem _ (h.met a ha)
      · exact List.mem_singleton.mp ha ▸ List.mem_cons_self
    · simp only [ImportStack.depth, List.length_append, List.length_singleton] at room ⊢
      omega

end Trail

/-! ## 2. Where errors come from -/

/-- **What a full stack tells**: a path of the graph with one source more than the limit allows. -/
structure Overlong (fs : FileSystem) (options : Options) (r : Root) (chain : List String)
    (trail : List Source) : Prop extends SimplePath fs options r trail where
  shown : chain = trail.map Source.displayPath
  length : trail.length = options.limit + 1

/-- **Where an error comes from**, among the sources that a root leads to. -/
inductive Fails (fs : FileSystem) (options : Options) (r : Root) : LoadError → Prop where
  | reference {s : Source} {schema : Schema} {dir reference : String} {e : LoadError}
      (reached : r.Includes fs options s) (read : r.read fs s = .ok (schema, dir))
      (mem : reference ∈ schema.imports)
      (failed : resolve fs reference dir s.displayPath = .error e) : Fails fs options r e
  | source {s : Source} {e : LoadError} (reached : r.Includes fs options s)
      (failed : r.read fs s = .error e) : Fails fs options r e
  | depth {chain : List String} {trail : List Source}
      (long : Overlong fs options r chain trail) : Fails fs options r (.tooDeep options.limit chain)

theorem overlong_of_push {stack : ImportStack} {t : Tour Source} {trail : List Source}
    {here s : Source} {e : LoadError} (h : Trail fs options r stack t trail here) (hs : s ∉ t.met)
    (edge : s ∈ r.targets fs options here) (hpush : stack.push s.displayPath = .error e) :
    ∃ chain, e = .tooDeep options.limit chain ∧ Overlong fs options r chain (trail ++ [s]) := by
  have longer := simplePath_snoc h.toSimplePath h.last (fun hm => hs (h.met s hm)) edge
  unfold ImportStack.push at hpush
  split at hpush
  · rename_i full
    cases hpush
    refine ⟨_, by rw [h.limit], { longer with shown := by simp [h.paths], length := ?_ }⟩
    have fits := h.fits
    rw [List.length_append, List.length_singleton, length_of_trail h, ← h.limit]
    omega
  · cases hpush

/-- The stack has no room for the root alone only if the limit is zero. -/
theorem overlong_root (fs : FileSystem) {e : LoadError}
    (h : ({ limit := options.limit } : ImportStack).push r.path = .error e) :
    ∃ chain, e = .tooDeep options.limit chain ∧ Overlong fs options r chain [r.source] := by
  unfold ImportStack.push at h
  split at h
  · rename_i full
    cases h
    have none_fits : options.limit = 0 := Nat.le_zero.mp full
    exact ⟨_, rfl, { simplePath_root with shown := rfl, length := by rw [none_fits]; rfl }⟩
  · cases h

/-- **Following imports fails nowhere else.** -/
theorem fails_of_stops (hi : options.loadImports = true) {stack : ImportStack} {dir : String}
    {references : List String} {loaded : Loaded} {t : Tour Source} {trail : List Source}
    {here : Source} {schema : Schema} {e : LoadError} (ht : Tracks fs r.source t loaded)
    (path : Trail fs options r stack t trail here) (held : r.read fs here = .ok (schema, dir))
    (among : references ⊆ schema.imports) (h : Stops fs stack dir references loaded e) :
    Fails fs options r e := by
  induction h generalizing t trail here schema with
  | unresolved failed =>
      rw [top_of_trail path] at failed
      exact .reference (includes_of_trail path) held (among List.mem_cons_self) failed
  | unread leads new failed =>
      obtain ⟨-, other⟩ := fresh_of_new ht (located_of_resolve leads) new
      have edge := edge_of_resolve hi path held (among List.mem_cons_self) leads
      exact .source ((includes_of_trail path).tail edge) ((read_of_ne other).trans failed)
  | full leads new read failed =>
      obtain ⟨fresh, -⟩ := fresh_of_new ht (located_of_resolve leads) new
      have edge := edge_of_resolve hi path held (among List.mem_cons_self) leads
      obtain ⟨chain, rfl, long⟩ := overlong_of_push path fresh edge failed
      exact .depth long
  | inside leads new read pushed _ ih =>
      have located := located_of_resolve leads
      obtain ⟨fresh, other⟩ := fresh_of_new ht located new
      have edge := edge_of_resolve hi path held (among List.mem_cons_self) leads
      exact ih (tracks_enter ht located) (trail_push path fresh edge pushed)
        ((read_of_ne other).trans read) fun _ hx => hx
  | later first _ ih =>
      obtain ⟨t', tour, ht'⟩ := visits_of_follows (fun s hs => targets_of_ne hi hs) ht first
      exact ih ht' (trail_mono path fun a ha => met_of_visits tour ha) held
        fun x hx => among (List.mem_cons_of_mem _ hx)

/-! ## 3. Kinds of errors -/

/-- An error of one document: not of a reference in it, nor of the stack. -/
def OfDocument : LoadError → Prop
  | .unresolved _ _ _ => False
  | .tooDeep _ _ => False
  | _ => True

section Kinds

variable {e : LoadError} {path shown : String}

/-- **References fail as such**, or at the file that they name. -/
theorem resolve_error {reference dir importer : String}
    (h : resolve fs reference dir importer = .error e) :
    OfDocument e ∨ ∃ reason, e = .unresolved reference importer reason := by
  unfold resolve at h
  split at h
  · cases h
  · cases h
    exact Or.inr ⟨_, rfl⟩
  · split at h
    · cases h
      exact Or.inr ⟨_, rfl⟩
    · dsimp only at h
      split at h
      · split at h
        · cases h
        · cases h
          exact Or.inl trivial
      · cases h
        exact Or.inr ⟨_, rfl⟩

theorem ofDocument_of_parse {text : String} {format : FileFormat}
    (h : parse text format path = .error e) : OfDocument e := by
  unfold parse at h
  split at h <;> split at h <;> cases h <;> trivial

theorem ofDocument_of_parseFile (h : parseFile fs path = .error e) : OfDocument e := by
  unfold parseFile FileFormat.ofPath at h
  split at h
  · cases ht : fs.readText path with
    | error cause => rw [ht] at h; cases h; trivial
    | ok text => rw [ht] at h; exact ofDocument_of_parse h
  · cases h
    trivial

theorem ofDocument_of_readFile (h : readFile fs path shown = .error e) : OfDocument e := by
  unfold readFile at h
  cases hp : parseFile fs path with
  | error cause =>
      rw [hp] at h
      cases h
      exact ofDocument_of_parseFile hp
  | ok document =>
      rw [hp] at h
      simp only [bind, Except.bind] at h
      cases hr : Schema.read document with
      | error cause => rw [hr] at h; cases h; trivial
      | ok _ => rw [hr] at h; cases h

/-- **Sources fail as documents.** -/
theorem ofDocument_of_read {s : Source} (h : r.read fs s = .error e) : OfDocument e := by
  unfold Root.read at h
  split at h
  · cases h
  · cases s with
    | basicTypes => cases h
    | file path =>
        simp only [Source.read] at h
        cases hr : readFile fs path path with
        | error cause =>
            rw [hr] at h
            cases h
            exact ofDocument_of_readFile hr
        | ok schema => rw [hr] at h; cases h

/-- **Roots fail as documents.** -/
theorem ofDocument_of_root {o : Origin} (h : o.root fs = .error e) : OfDocument e := by
  cases o with
  | file path =>
      simp only [Origin.root, Root.ofFile] at h
      cases hc : fs.canonical path with
      | error cause => rw [hc] at h; cases h; trivial
      | ok found =>
          simp only [hc, Except.mapError, bind, Except.bind] at h
          cases hr : readFile fs found path with
          | error cause => rw [hr] at h; cases h; exact ofDocument_of_readFile hr
          | ok schema => rw [hr] at h; cases h
  | text content format dir =>
      simp only [Origin.root, Root.ofText] at h
      cases hp : parse content format (textPath dir format) with
      | error cause =>
          rw [textPath] at hp
          simp only [hp, bind, Except.bind] at h
          cases h
          exact ofDocument_of_parse hp
      | ok document =>
          rw [textPath] at hp
          simp only [hp, bind, Except.bind] at h
          cases hs : Schema.read document with
          | error cause => rw [hs] at h; cases h; trivial
          | ok schema => rw [hs] at h; cases h

/-- **Only a full stack is reported as one.** -/
theorem overlong_of_fails {limit : Nat} {chain : List String}
    (h : Fails fs options r (.tooDeep limit chain)) :
    limit = options.limit ∧ ∃ trail, Overlong fs options r chain trail := by
  cases h with
  | reference _ _ _ failed =>
      rcases resolve_error failed with document | ⟨_, e⟩
      · exact document.elim
      · cases e
  | source _ failed => exact (ofDocument_of_read failed).elim
  | depth long => exact ⟨rfl, _, long⟩

/-- **Only a reference is reported as one**, with the source that it stands in. -/
theorem reference_of_fails {reference source reason : String}
    (h : Fails fs options r (.unresolved reference source reason)) :
    ∃ s schema dir, r.Includes fs options s ∧ s.displayPath = source ∧
      r.read fs s = .ok (schema, dir) ∧ reference ∈ schema.imports ∧
      resolve fs reference dir source = .error (.unresolved reference source reason) := by
  cases h with
  | @reference s schema dir entry _ reached read mem failed =>
      rcases resolve_error failed with document | ⟨_, e⟩
      · exact document.elim
      · cases e
        exact ⟨s, schema, dir, reached, rfl, read, mem, failed⟩
  | source _ failed => exact (ofDocument_of_read failed).elim

end Kinds

/-! ## 4. A root with its imports -/

section Load

variable {e : LoadError}

/-- **Where a root with its imports fails.** -/
theorem fails_of_closure (hi : options.loadImports = true) (hr : r.path ≠ Source.basicTypes.key)
    (h : closure fs options r.schema r.path r.dir = .error e) : Fails fs options r e := by
  rcases closure_error hi h with full | ⟨stack, pushed, run⟩
  · obtain ⟨chain, rfl, long⟩ := overlong_root fs full
    exact .depth long
  · exact fails_of_stops hi (tracks_start hr) (trail_start pushed) read_source (fun _ hx => hx) run

/-- **Where loading fails**: at the root, or at the imports that it leads to. -/
theorem fails_of_view {o : Origin} (hi : options.loadImports = true)
    (h : o.view fs options = .error e) :
    o.root fs = .error e ∨ ∃ r, o.root fs = .ok r ∧ Fails fs options r e := by
  rw [view_eq] at h
  cases root : o.root fs with
  | error cause =>
      rw [root] at h
      cases h
      exact Or.inl rfl
  | ok r =>
      rw [root] at h
      exact Or.inr ⟨r, rfl, fails_of_closure hi (path_ne_of_root root).1 h⟩

/-- **All that a root leads to can be read**, and all references in it resolve. -/
def Readable (fs : FileSystem) (options : Options) (r : Root) : Prop :=
  ∀ s, r.Includes fs options s → ∃ schema dir, r.read fs s = .ok (schema, dir) ∧
    ∀ reference ∈ schema.imports, ∃ t, resolve fs reference dir s.displayPath = .ok t

/-- **Where all can be read, only the limit is reported.** -/
theorem overlong_of_readable {o : Origin} (hi : options.loadImports = true)
    (root : o.root fs = .ok r) (readable : Readable fs options r)
    (view : o.view fs options = .error e) :
    ∃ chain trail, e = .tooDeep options.limit chain ∧ Overlong fs options r chain trail := by
  rcases fails_of_view hi view with unread | ⟨r', root', fails⟩
  · rw [root] at unread
    cases unread
  rw [root] at root'
  cases root'
  cases fails with
  | @reference s schema dir reference _ reached read mem failed =>
      obtain ⟨schema', dir', read', resolves⟩ := readable s reached
      rw [read] at read'
      cases read'
      obtain ⟨t, resolved⟩ := resolves reference mem
      rw [failed] at resolved
      cases resolved
  | source reached failed =>
      obtain ⟨schema, dir, read, _⟩ := readable _ reached
      rw [failed] at read
      cases read
  | depth long => exact ⟨_, _, rfl, long⟩

/-- **Loading succeeds** where all can be read and no path is longer than the limit. -/
theorem view_ok_of_readable {o : Origin} (hi : options.loadImports = true)
    (root : o.root fs = .ok r) (readable : Readable fs options r)
    (short : ∀ trail, SimplePath fs options r trail → trail.length ≤ options.limit) :
    ∃ v, o.view fs options = .ok v := by
  cases view : o.view fs options with
  | ok v => exact ⟨v, rfl⟩
  | error e =>
      exfalso
      obtain ⟨_, _, -, long⟩ := overlong_of_readable hi root readable view
      have bound := short _ long.toSimplePath
      rw [long.length] at bound
      omega

end Load

end SchemaPages.Import
