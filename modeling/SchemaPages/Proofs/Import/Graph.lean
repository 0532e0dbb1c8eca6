import SchemaPages.Import.Closure
import SchemaPages.Proofs.DepthFirst
import SchemaPages.Proofs.Files.Components
/-!
# The graph of imports

Sources are the nodes, and the entries of import lists that lead somewhere are the edges. Following
imports is a depth-first tour of this graph.

* `Source.targets`, `Imports`, `Reaches`: the edges, and what they lead to;
* `key_inj`: two resolved sources with one key are one source;
* `Follows`, `Stops`, `follow_ok_iff`, `follow_error_iff`: runs that follow references, step by step;
* `visits_of_follows`: imports that are followed without an error make up a tour.
-/

namespace SchemaPages.Import

open DepthFirst

/-! ## 1. Edges -/

/-- Where the references of a schema lead to, as far as they lead anywhere. -/
def targetsOf (fs : FileSystem) (references : List String) (dir importer : String) : List Source :=
  references.filterMap fun r => (resolve fs r dir importer).toOption

/-- **The sources that a source imports**, in the order of its list. -/
def Source.targets (fs : FileSystem) (s : Source) : List Source :=
  match s.read fs with
  | .ok (schema, dir) => targetsOf fs schema.imports dir s.displayPath
  | .error _ => []

/-- One source imports another. -/
def Imports (fs : FileSystem) (s t : Source) : Prop := t ∈ s.targets fs

/-- One source imports another directly or through others, or is the same. -/
abbrev Reaches (fs : FileSystem) : Source → Source → Prop := Relation.ReflTransGen (Imports fs)

/-- The source holds the schema. -/
def Source.Holds (fs : FileSystem) (s : Source) (schema : Schema) : Prop :=
  ∃ dir, s.read fs = .ok (schema, dir)

theorem mem_targetsOf {fs : FileSystem} {references : List String} {dir importer : String}
    {t : Source} : t ∈ targetsOf fs references dir importer ↔
      ∃ r ∈ references, resolve fs r dir importer = .ok t := by
  simp only [targetsOf, List.mem_filterMap]
  refine exists_congr fun r => and_congr_right fun _ => ?_
  cases resolve fs r dir importer with
  | error e => simp [Except.toOption]
  | ok u => simp [Except.toOption]

/-- **An import is an entry of the list of the schema that resolves.** -/
theorem imports_iff {fs : FileSystem} {s t : Source} :
    Imports fs s t ↔ ∃ schema dir, s.read fs = .ok (schema, dir) ∧
      ∃ r ∈ schema.imports, resolve fs r dir s.displayPath = .ok t := by
  unfold Imports Source.targets
  cases hr : s.read fs with
  | error e => simp
  | ok found =>
      obtain ⟨schema, dir⟩ := found
      constructor
      · exact fun edge => ⟨schema, dir, rfl, mem_targetsOf.mp edge⟩
      · rintro ⟨_, _, e, edge⟩
        cases e
        exact mem_targetsOf.mpr edge

/-! ## 2. Keys -/

/-- **A source that a reference can lead to**: the basic types, or a file by the path of the place
    where it is. -/
def Source.Located (fs : FileSystem) : Source → Prop
  | .basicTypes => True
  | .file path => ∃ p n, fs.node? p = some n ∧ path = FileSystem.pathOf p

theorem isAbsolute_pathOf (p : Place) : Path.isAbsolute (FileSystem.pathOf p) = true := by
  simp [Path.isAbsolute, Text.beginsWith, FileSystem.pathOf]

/-- A canonical path is that of a place where something is. -/
theorem located_of_canonical {fs : FileSystem} {path found : String}
    (h : fs.canonical path = .ok found) : (Source.file found).Located fs := by
  unfold FileSystem.canonical at h
  cases hf : fs.find path with
  | error e => rw [hf] at h; cases h
  | ok place =>
      obtain ⟨p, n⟩ := place
      rw [hf] at h
      cases h
      exact ⟨p, n, (FileSystem.find_ok hf).2, rfl⟩

theorem located_of_resolve {fs : FileSystem} {r dir importer : String} {t : Source}
    (h : resolve fs r dir importer = .ok t) : t.Located fs := by
  unfold resolve at h
  split at h
  · cases h
    trivial
  · cases h
  · split at h
    · cases h
    · dsimp only at h
      split at h
      · split at h
        · rename_i found hc
          cases h
          exact located_of_canonical hc
        · cases h
      · cases h

/-- The path of a place is absolute, so it is no relative path. -/
theorem ne_of_located {fs : FileSystem} {path other : String} (h : (Source.file path).Located fs)
    (relative : Path.isAbsolute other = false) : path ≠ other := by
  obtain ⟨p, _, _, rfl⟩ := h
  rintro rfl
  cases (isAbsolute_pathOf p).symm.trans relative

/-- No path of a place is the key of the basic types, or what they are shown as. -/
theorem ne_basicTypes_of_located {fs : FileSystem} {path : String}
    (h : (Source.file path).Located fs) :
    path ≠ Source.basicTypes.key ∧ path ≠ Source.basicTypes.displayPath :=
  ⟨ne_of_located h (by decide), ne_of_located h (by decide)⟩

/-- **Keys tell sources apart.** -/
theorem key_inj {fs : FileSystem} {s t : Source} (hs : s.Located fs) (ht : t.Located fs)
    (h : s.key = t.key) : s = t := by
  cases s with
  | basicTypes =>
      cases t with
      | basicTypes => rfl
      | file path => exact absurd h.symm (ne_basicTypes_of_located ht).1
  | file path =>
      cases t with
      | basicTypes => exact absurd h (ne_basicTypes_of_located hs).1
      | file other => exact congrArg Source.file h

/-- The keys that sources of a file system can have. -/
def knownKeys (fs : FileSystem) : List String :=
  "builtin:types" :: FileSystem.pathOf [] :: fs.nodes.map fun e => FileSystem.pathOf e.1

theorem key_mem_knownKeys {fs : FileSystem} {s : Source} (h : s.Located fs) :
    s.key ∈ knownKeys fs := by
  cases s with
  | basicTypes => exact List.mem_cons_self
  | file path =>
      obtain ⟨p, n, hn, rfl⟩ := h
      refine List.mem_cons_of_mem _ ?_
      unfold FileSystem.node? at hn
      split at hn
      · rename_i root
        rw [root]
        exact List.mem_cons_self
      · obtain ⟨before, after, e, _⟩ := List.lookup_eq_some_iff.mp hn
        have entry : (p, n) ∈ fs.nodes := by simp [e]
        exact List.mem_cons_of_mem _ (List.mem_map.mpr ⟨(p, n), entry, rfl⟩)

/-- **There are no more sources than files**, the basic types and the root of all places. -/
theorem length_le_of_located {fs : FileSystem} {l : List Source} (hl : l.Nodup)
    (h : ∀ s ∈ l, s.Located fs) : l.length ≤ fs.nodes.length + 2 := by
  have keys : (l.map Source.key).Nodup := List.Nodup.map_on
    (fun s hs t ht e => key_inj (h s hs) (h t ht) e) hl
  have sub : l.map Source.key ⊆ knownKeys fs := fun k hk => by
    obtain ⟨s, hs, rfl⟩ := List.mem_map.mp hk
    exact key_mem_knownKeys (h s hs)
  have bound := List.Nodup.length_le_of_subset keys sub
  simpa [knownKeys] using bound

/-! ## 3. Runs -/

theorem top_of_push {stack inner : ImportStack} {path : String} (h : stack.push path = .ok inner) :
    inner.top = path := by
  unfold ImportStack.push at h
  split at h
  · cases h
  · cases h
    simp [ImportStack.top]

/-- **References that are followed**, one after the other: a source that has been met is passed, and
    another one is entered, with the imports of its schema followed before that schema is complete. -/
inductive Follows (fs : FileSystem) :
    ImportStack → String → List String → Loaded → Loaded → Prop where
  | done {stack : ImportStack} {dir : String} {loaded : Loaded} :
      Follows fs stack dir [] loaded loaded
  | met {stack : ImportStack} {dir r : String} {rest : List String} {loaded result : Loaded}
      {s : Source} (leads : resolve fs r dir stack.top = .ok s) (seen : s.key ∈ loaded.seen)
      (later : Follows fs stack dir rest loaded result) : Follows fs stack dir (r :: rest) loaded result
  | enter {stack inner : ImportStack} {dir r schemaDir : String} {rest : List String}
      {loaded inside result : Loaded} {s : Source} {schema : Schema}
      (leads : resolve fs r dir stack.top = .ok s) (new : s.key ∉ loaded.seen)
      (read : s.read fs = .ok (schema, schemaDir)) (pushed : stack.push s.displayPath = .ok inner)
      (below : Follows fs inner schemaDir schema.imports
        { loaded with seen := s.key :: loaded.seen } inside)
      (later : Follows fs stack dir rest { inside with schemas := inside.schemas ++ [schema] } result) :
      Follows fs stack dir (r :: rest) loaded result

/-- **References that are followed up to an error**: one does not resolve, its source cannot be read,
    the stack is full, or an import of its schema fails. -/
inductive Stops (fs : FileSystem) :
    ImportStack → String → List String → Loaded → LoadError → Prop where
  | unresolved {stack : ImportStack} {dir r : String} {rest : List String} {loaded : Loaded}
      {e : LoadError} (failed : resolve fs r dir stack.top = .error e) :
      Stops fs stack dir (r :: rest) loaded e
  | unread {stack : ImportStack} {dir r : String} {rest : List String} {loaded : Loaded}
      {s : Source} {e : LoadError} (leads : resolve fs r dir stack.top = .ok s)
      (new : s.key ∉ loaded.seen) (failed : s.read fs = .error e) :
      Stops fs stack dir (r :: rest) loaded e
  | full {stack : ImportStack} {dir r schemaDir : String} {rest : List String} {loaded : Loaded}
      {s : Source} {schema : Schema} {e : LoadError} (leads : resolve fs r dir stack.top = .ok s)
      (new : s.key ∉ loaded.seen) (read : s.read fs = .ok (schema, schemaDir))
      (failed : stack.push s.displayPath = .error e) : Stops fs stack dir (r :: rest) loaded e
  | inside {stack inner : ImportStack} {dir r schemaDir : String} {rest : List String}
      {loaded : Loaded} {s : Source} {schema : Schema} {e : LoadError}
      (leads : resolve fs r dir stack.top = .ok s) (new : s.key ∉ loaded.seen)
      (read : s.read fs = .ok (schema, schemaDir)) (pushed : stack.push s.displayPath = .ok inner)
      (failed : Stops fs inner schemaDir schema.imports
        { loaded with seen := s.key :: loaded.seen } e) : Stops fs stack dir (r :: rest) loaded e
  | later {stack : ImportStack} {dir r : String} {rest : List String} {loaded next : Loaded}
      {e : LoadError} (first : Follows fs stack dir [r] loaded next)
      (failed : Stops fs stack dir rest next e) : Stops fs stack dir (r :: rest) loaded e

section Step

variable {fs : FileSystem} {stack inner : ImportStack} {dir r schemaDir : String}
  {references rest : List String} {loaded inside result : Loaded} {s : Source} {schema : Schema}
  {e : LoadError}

/-- A reference that is followed leads somewhere. -/
theorem leads_of_follows (h : Follows fs stack dir (r :: rest) loaded result) :
    ∃ s, resolve fs r dir stack.top = .ok s := by
  cases h with
  | met leads => exact ⟨_, leads⟩
  | enter leads => exact ⟨_, leads⟩

theorem follow_nil : follow fs stack dir [] loaded = .ok loaded := by
  rw [follow]
  rfl

/-- The references after the first one are followed from where that one ends. -/
theorem follow_cons : follow fs stack dir (r :: rest) loaded =
    follow fs stack dir [r] loaded >>= fun next => follow fs stack dir rest next := by
  rw [follow, List.foldlM_cons, follow, List.foldlM_cons]
  simp only [List.foldlM_nil, bind_pure]
  congr 1
  funext next
  rw [follow]

theorem follow_met (leads : resolve fs r dir stack.top = .ok s) (seen : s.key ∈ loaded.seen) :
    follow fs stack dir [r] loaded = .ok loaded := by
  rw [follow, List.foldlM_cons, leads]
  simp only [List.foldlM_nil, bind_pure, if_pos seen]

theorem follow_unresolved (failed : resolve fs r dir stack.top = .error e) :
    follow fs stack dir [r] loaded = .error e := by
  rw [follow, List.foldlM_cons, failed]
  rfl

theorem follow_unread (leads : resolve fs r dir stack.top = .ok s) (new : s.key ∉ loaded.seen)
    (failed : s.read fs = .error e) : follow fs stack dir [r] loaded = .error e := by
  rw [follow, List.foldlM_cons, leads]
  simp only [List.foldlM_nil, bind_pure, if_neg new, failed]

theorem follow_full (leads : resolve fs r dir stack.top = .ok s) (new : s.key ∉ loaded.seen)
    (read : s.read fs = .ok (schema, schemaDir)) (failed : stack.push s.displayPath = .error e) :
    follow fs stack dir [r] loaded = .error e := by
  rw [follow, List.foldlM_cons, leads]
  simp only [List.foldlM_nil, bind_pure, if_neg new, read]
  split
  · rename_i e' full
    rw [failed] at full
    cases full
    rfl
  · rename_i inner pushed
    rw [failed] at pushed
    cases pushed

/-- A source is entered: what comes of it is what comes of the imports of its schema. -/
theorem follow_enter (leads : resolve fs r dir stack.top = .ok s) (new : s.key ∉ loaded.seen)
    (read : s.read fs = .ok (schema, schemaDir)) (pushed : stack.push s.displayPath = .ok inner) :
    follow fs stack dir [r] loaded =
      (follow fs inner schemaDir schema.imports { loaded with seen := s.key :: loaded.seen }).map
        fun inside => { inside with schemas := inside.schemas ++ [schema] } := by
  rw [follow, List.foldlM_cons, leads]
  simp only [List.foldlM_nil, bind_pure, if_neg new, read]
  split
  · rename_i e full
    rw [pushed] at full
    cases full
  · rename_i inner' pushed'
    rw [pushed] at pushed'
    cases pushed'
    rfl

theorem follow_of_follows (h : Follows fs stack dir references loaded result) :
    follow fs stack dir references loaded = .ok result := by
  induction h with
  | done => exact follow_nil
  | met leads seen _ ih =>
      rw [follow_cons, follow_met leads seen]
      exact ih
  | enter leads new read pushed _ _ ihBelow ihLater =>
      rw [follow_cons, follow_enter leads new read pushed, ihBelow]
      exact ihLater

theorem follow_of_stops (h : Stops fs stack dir references loaded e) :
    follow fs stack dir references loaded = .error e := by
  induction h with
  | unresolved failed => rw [follow_cons, follow_unresolved failed]; rfl
  | unread leads new failed => rw [follow_cons, follow_unread leads new failed]; rfl
  | full leads new read failed => rw [follow_cons, follow_full leads new read failed]; rfl
  | inside leads new read pushed _ ih =>
      rw [follow_cons, follow_enter leads new read pushed, ih]
      rfl
  | later first _ ih =>
      rw [follow_cons, follow_of_follows first]
      exact ih

/-- **Every run is followed to its end or up to an error**: by induction on the room that the stack
    has left, and then on the references. -/
theorem follows_or_stops (fs : FileSystem) (stack : ImportStack) (dir : String)
    (references : List String) (loaded : Loaded) :
    (∃ result, Follows fs stack dir references loaded result) ∨
      ∃ e, Stops fs stack dir references loaded e := by
  induction hroom : stack.room using Nat.strongRecOn generalizing stack dir references loaded with
  | _ room ihRoom =>
  induction references generalizing loaded with
  | nil => exact Or.inl ⟨loaded, .done⟩
  | cons r rest ihRest =>
      cases leads : resolve fs r dir stack.top with
      | error e => exact Or.inr ⟨e, .unresolved leads⟩
      | ok s =>
          by_cases seen : s.key ∈ loaded.seen
          · rcases ihRest loaded with ⟨result, later⟩ | ⟨e, later⟩
            · exact Or.inl ⟨result, .met leads seen later⟩
            · exact Or.inr ⟨e, .later (.met leads seen .done) later⟩
          cases read : s.read fs with
          | error e => exact Or.inr ⟨e, .unread leads seen read⟩
          | ok found =>
              obtain ⟨schema, schemaDir⟩ := found
              cases pushed : stack.push s.displayPath with
              | error e => exact Or.inr ⟨e, .full leads seen read pushed⟩
              | ok inner =>
                  rcases ihRoom inner.room (hroom ▸ ImportStack.room_lt_of_push pushed) inner
                    schemaDir schema.imports { loaded with seen := s.key :: loaded.seen } rfl with
                    ⟨inside, below⟩ | ⟨e, below⟩
                  · rcases ihRest { inside with schemas := inside.schemas ++ [schema] } with
                      ⟨result, later⟩ | ⟨e, later⟩
                    · exact Or.inl ⟨result, .enter leads seen read pushed below later⟩
                    · exact Or.inr ⟨e, .later (.enter leads seen read pushed below .done) later⟩
                  · exact Or.inr ⟨e, .inside leads seen read pushed below⟩

/-- **What following references comes to.** -/
theorem follow_ok_iff : follow fs stack dir references loaded = .ok result ↔
    Follows fs stack dir references loaded result := by
  refine ⟨fun h => ?_, follow_of_follows⟩
  rcases follows_or_stops fs stack dir references loaded with ⟨result', run⟩ | ⟨e, run⟩
  · obtain rfl := Except.ok.inj (h.symm.trans (follow_of_follows run))
    exact run
  · cases h.symm.trans (follow_of_stops run)

/-- **Where following references fails.** -/
theorem follow_error_iff : follow fs stack dir references loaded = .error e ↔
    Stops fs stack dir references loaded e := by
  refine ⟨fun h => ?_, follow_of_stops⟩
  rcases follows_or_stops fs stack dir references loaded with ⟨result, run⟩ | ⟨e', run⟩
  · cases h.symm.trans (follow_of_follows run)
  · obtain rfl := Except.error.inj (h.symm.trans (follow_of_stops run))
    exact run

end Step

/-! ## 4. Following imports is a tour -/

/-- **How a tour shows in what has been loaded**: the keys of the sources met, and the schemas of
    the finished ones. The root need not be a file; but then no file has its key. -/
structure Tracks (fs : FileSystem) (root : Source) (t : Tour Source) (loaded : Loaded) : Prop where
  seen : loaded.seen = t.met.map Source.key
  begun : root ∈ t.met
  located : ∀ s ∈ t.met, s = root ∨ s.Located fs
  alone : ∀ s : Source, s.Located fs → s.key = root.key → s = root
  schemas : List.Forall₂ (Source.Holds fs) t.done loaded.schemas

section Tracking

variable {fs : FileSystem} {root : Source} {t : Tour Source} {loaded : Loaded} {s : Source}

theorem mem_seen_iff (h : Tracks fs root t loaded) (hs : s.Located fs) :
    s.key ∈ loaded.seen ↔ s ∈ t.met := by
  rw [h.seen, List.mem_map]
  constructor
  · rintro ⟨u, hu, e⟩
    rcases h.located u hu with rfl | located
    · exact h.alone s hs e.symm ▸ hu
    · exact key_inj located hs e ▸ hu
  · exact fun hm => ⟨s, hm, rfl⟩

/-- What is not known by its key has not been met, so it is not the root. -/
theorem fresh_of_new (h : Tracks fs root t loaded) (hs : s.Located fs) (new : s.key ∉ loaded.seen) :
    s ∉ t.met ∧ s ≠ root := by
  have fresh : s ∉ t.met := fun met => new ((mem_seen_iff h hs).mpr met)
  exact ⟨fresh, fun e => fresh (e ▸ h.begun)⟩

theorem tracks_enter (h : Tracks fs root t loaded) (hs : s.Located fs) :
    Tracks fs root (t.enter s) { loaded with seen := s.key :: loaded.seen } where
  seen := by rw [h.seen]; rfl
  begun := List.mem_cons_of_mem _ h.begun
  located u hu := by
    rcases List.mem_cons.mp hu with rfl | hu
    · exact Or.inr hs
    · exact h.located u hu
  alone := h.alone
  schemas := h.schemas

theorem tracks_leave {schema : Schema} (h : Tracks fs root t loaded) (hs : s.Holds fs schema) :
    Tracks fs root (t.leave s) { loaded with schemas := loaded.schemas ++ [schema] } where
  seen := h.seen
  begun := h.begun
  located := h.located
  alone := h.alone
  schemas := List.rel_append h.schemas (.cons hs .nil)

end Tracking

theorem targetsOf_cons {fs : FileSystem} {r dir importer : String} {rest : List String} {s : Source}
    (h : resolve fs r dir importer = .ok s) :
    targetsOf fs (r :: rest) dir importer = s :: targetsOf fs rest dir importer := by
  unfold targetsOf
  rw [List.filterMap_cons, h]
  rfl

/-- The targets of a source that is entered are those of the references of its schema. -/
theorem targets_of_push {fs : FileSystem} {stack inner : ImportStack} {s : Source} {schema : Schema}
    {dir : String} (read : s.read fs = .ok (schema, dir))
    (pushed : stack.push s.displayPath = .ok inner) :
    s.targets fs = targetsOf fs schema.imports dir inner.top := by
  unfold Source.targets
  rw [read, top_of_push pushed]

/-- **Imports that are followed without an error make up a tour** of the sources they lead to,
    whatever the edges from the root are. -/
theorem visits_of_follows {fs : FileSystem} {root : Source} {next : Source → List Source}
    (edges : ∀ s, s ≠ root → next s = s.targets fs) {stack : ImportStack} {dir : String}
    {references : List String} {loaded result : Loaded} {t : Tour Source}
    (ht : Tracks fs root t loaded) (h : Follows fs stack dir references loaded result) :
    ∃ t', Visits next (targetsOf fs references dir stack.top) t t' ∧ Tracks fs root t' result := by
  induction h generalizing t with
  | done => exact ⟨t, .stop t, ht⟩
  | met leads seen _ ih =>
      have met := (mem_seen_iff ht (located_of_resolve leads)).mp seen
      obtain ⟨t', tour, ht'⟩ := ih ht
      rw [targetsOf_cons leads]
      exact ⟨t', .pass met tour, ht'⟩
  | @enter _ _ _ _ schemaDir _ _ _ _ s _ leads new read pushed _ _ ihBelow ihLater =>
      have located := located_of_resolve leads
      obtain ⟨fresh, other⟩ := fresh_of_new ht located new
      obtain ⟨u, below, hu⟩ := ihBelow (tracks_enter ht located)
      obtain ⟨t', after, ht'⟩ := ihLater (tracks_leave hu ⟨schemaDir, read⟩)
      rw [← targets_of_push read pushed, ← edges s other] at below
      rw [targetsOf_cons leads]
      exact ⟨t', .enter fresh below after, ht'⟩

end SchemaPages.Import
