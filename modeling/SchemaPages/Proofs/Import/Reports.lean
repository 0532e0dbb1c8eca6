import SchemaPages.Proofs.Import.Failure
/-!
# What errors of loading report

Errors are about sources that a user can look up. A stack that is full shows a path of imports, and a
reference that is blamed stands in the list of the schema that is named with it. Where there is
nothing to report, a view is loaded.

* `nodup_shown`: the paths that a full stack shows are distinct;
* `loading_reports`: all of it in one statement.
-/

namespace SchemaPages.Import

section Shown

variable {fs : FileSystem} {options : Options} {r : Root} {trail : List Source}

/-- **A path of the graph is shown without repetitions**: messages tell its sources apart. -/
theorem nodup_shown (hi : options.loadImports = true)
    (hr : r.path ≠ Source.basicTypes.displayPath) (h : SimplePath fs options r trail) :
    (trail.map Source.displayPath).Nodup := by
  have located : ∀ s ∈ trail, s = r.source ∨ s.Located fs := fun s hs =>
    located_of_includes hi (includes_of_simplePath h hs)
  exact List.Nodup.map_on
    (fun s hs t ht e => displayPath_inj hr (located s hs) (located t ht) e) h.nodup

end Shown

/-- **Errors of loading tell the truth**, whatever is loaded with its imports. A full stack reports
    its limit and one source more than it allows: a path from the root, each source imported by the
    one before it and none shown twice. A reference that is reported stands in the import list of a
    schema that the root leads to, under the path of that schema, and does not resolve there. And
    loading succeeds where all that the root leads to can be read, all references in it resolve and
    no path of distinct sources is longer than the limit. -/
theorem loading_reports (fs : FileSystem) (options : Options) (o : Origin)
    (hi : options.loadImports = true) :
    (∀ limit chain, o.view fs options = .error (.tooDeep limit chain) →
      limit = options.limit ∧ chain.length = options.limit + 1 ∧ chain.Nodup ∧
      ∃ r trail, o.root fs = .ok r ∧ SimplePath fs options r trail ∧
        chain = trail.map Source.displayPath) ∧
    (∀ r, o.root fs = .ok r → Readable fs options r →
      (∀ trail, SimplePath fs options r trail → trail.length ≤ options.limit) →
      ∃ v, o.view fs options = .ok v) ∧
    ∀ reference source reason,
      o.view fs options = .error (.unresolved reference source reason) →
      ∃ r s schema dir, o.root fs = .ok r ∧ r.Includes fs options s ∧ s.displayPath = source ∧
        r.read fs s = .ok (schema, dir) ∧ reference ∈ schema.imports ∧
        resolve fs reference dir source = .error (.unresolved reference source reason) := by
  refine ⟨fun limit chain h => ?_, fun r root readable short =>
    view_ok_of_readable hi root readable short, fun reference source reason h => ?_⟩
  · rcases fails_of_view hi h with unread | ⟨r, root, fails⟩
    · exact (ofDocument_of_root unread).elim
    · obtain ⟨same, trail, long⟩ := overlong_of_fails fails
      have length : chain.length = options.limit + 1 := by
        rw [long.shown, List.length_map, long.length]
      have nodup : chain.Nodup :=
        long.shown ▸ nodup_shown hi (path_ne_of_root root).2 long.toSimplePath
      exact ⟨same, length, nodup, r, trail, root, long.toSimplePath, long.shown⟩
  · rcases fails_of_view hi h with unread | ⟨r, root, fails⟩
    · exact (ofDocument_of_root unread).elim
    · obtain ⟨s, schema, dir, found⟩ := reference_of_fails fails
      exact ⟨r, s, schema, dir, root, found⟩

/-- A text that imports the basic types. -/
def typedText : Origin :=
  .text "\x7b\"id\":\"a\",\"name\":\"a\",\"imports\":\"linkml:types\"\x7d" .json "/"

/-- A text with a reference that leads nowhere. -/
def strayText : Origin :=
  .text "\x7b\"id\":\"a\",\"name\":\"a\",\"imports\":\"b\"\x7d" .json "/"

/-- What loading reports where there are no files and one source is let in: the chain of a full
    stack, or a reference and where it stands. -/
def reported (o : Origin) : Option (List String) :=
  match o.view {} { limit := 1 } with
  | .error (.tooDeep _ chain) => some chain
  | .error (.unresolved reference source _) => some [reference, source]
  | _ => none

/-- The root of the text with a type. -/
def typedRoot : Root where
  schema := { id := "a", name := "a", imports := ["linkml:types"] }
  path := "/<memory>.json"
  dir := "/"

section Typed

set_option maxRecDepth 10000 in
theorem root_typed : typedText.root {} = .ok typedRoot := by rfl

theorem targets_typed :
    typedRoot.targets {} { limit := 2 } typedRoot.source = [Source.basicTypes] := by rfl

theorem targets_basicTypes : typedRoot.targets {} { limit := 2 } .basicTypes = [] := by rfl

/-- The root leads to itself and to the basic types. -/
theorem eq_of_includes_typed {s : Source} (h : typedRoot.Includes {} { limit := 2 } s) :
    s = typedRoot.source ∨ s = .basicTypes := by
  induction h with
  | refl => exact Or.inl rfl
  | tail _ step ih =>
      rcases ih with rfl | rfl
      · rw [targets_typed] at step
        exact Or.inr (List.mem_singleton.mp step)
      · rw [targets_basicTypes] at step
        cases step

theorem readable_typed : Readable {} { limit := 2 } typedRoot := by
  intro s h
  rcases eq_of_includes_typed h with rfl | rfl
  · exact ⟨typedRoot.schema, "/", rfl, List.forall_mem_singleton.mpr ⟨.basicTypes, rfl⟩⟩
  · exact ⟨basicTypes, ".", rfl, nofun⟩

/-- No path has more sources than the two that there are. -/
theorem length_le_typed {trail : List Source}
    (h : SimplePath {} { limit := 2 } typedRoot trail) : trail.length ≤ 2 := by
  obtain ⟨first, _, edges⟩ := h
  match trail, first, edges with
  | [_], _, _ => simp
  | [_, _], _, _ => simp
  | a :: b :: c :: rest, first, edges =>
      cases first
      rw [List.isChain_cons_cons, List.isChain_cons_cons, targets_typed, List.mem_singleton] at edges
      obtain ⟨rfl, step, _⟩ := edges
      rw [targets_basicTypes] at step
      cases step

end Typed

set_option maxRecDepth 10000 in
theorem loading_reports_texts :
    reported typedText = some ["/<memory>.json", "<builtin:types>"] ∧
    (∀ limit chain, typedText.view {} { limit := 1 } = .error (.tooDeep limit chain) →
      limit = 1 ∧ chain.length = 2 ∧ chain.Nodup ∧
      ∃ r trail, typedText.root {} = .ok r ∧ SimplePath {} { limit := 1 } r trail ∧
        chain = trail.map Source.displayPath) ∧
    (∃ v, typedText.view {} { limit := 2 } = .ok v) ∧
    reported strayText = some ["b", "/<memory>.json"] ∧
    ∀ reference source reason,
      strayText.view {} { limit := 1 } = .error (.unresolved reference source reason) →
      ∃ r s schema dir, strayText.root {} = .ok r ∧ r.Includes {} { limit := 1 } s ∧
        s.displayPath = source ∧ r.read {} s = .ok (schema, dir) ∧ reference ∈ schema.imports ∧
        resolve {} reference dir source = .error (.unresolved reference source reason) :=
  have full := loading_reports {} { limit := 1 } typedText rfl
  have whole := loading_reports {} { limit := 2 } typedText rfl
  have stray := loading_reports {} { limit := 1 } strayText rfl
  ⟨by decide +kernel, full.1,
    whole.2.1 typedRoot root_typed readable_typed fun _ path => length_le_typed path,
    by decide +kernel, stray.2.2⟩

end SchemaPages.Import
