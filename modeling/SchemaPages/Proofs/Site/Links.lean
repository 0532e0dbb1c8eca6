import SchemaPages.Proofs.Files.Relative
import SchemaPages.Proofs.View.Names
import SchemaPages.Site.Link
import SchemaPages.Site.Plan
/-!
# Links and plans

The plan of a site and the links of its pages find the path of a page each in its own way: the plan
puts a file below a folder, a link goes up from a page and down again. They agree.

* `name_eq_of`: what the name of an element hangs on;
* `filter_subject_element`: an element with a page has one document;
* `pagePath_index`, `pagePath_page`: the way to a page is the path that is planned;
* `link_agrees`: where the link of an element leads to.
-/

namespace SchemaPages

/-- An item is all that a filter for its key leaves when keys are distinct. -/
theorem filter_key_of_mem {α κ : Type} [DecidableEq κ] {key : α → κ} {l : List α}
    (h : (l.map key).Nodup) {a : α} (ha : a ∈ l) : l.filter (key · = key a) = [a] := by
  induction l with
  | nil => exact absurd ha List.not_mem_nil
  | cons b rest ih =>
      rw [List.map_cons, List.nodup_cons] at h
      rcases List.mem_cons.mp ha with rfl | hr
      · have none_left : rest.filter (key · = key a) = [] := by
          refine List.filter_eq_nil_iff.mpr fun c hc => ?_
          simpa using fun e : key c = key a => h.1 (e ▸ List.mem_map_of_mem hc)
        rw [List.filter_cons_of_pos (by simp), none_left]
      · have other : key b ≠ key a := fun e => h.1 (e ▸ List.mem_map_of_mem hr)
        rw [List.filter_cons_of_neg (by simpa using other)]
        exact ih h.2 hr

/-- What the document of an element is about. -/
def Element.subject (e : Element) : Subject := .element e.kind e.name

namespace Site

variable {s : Site} {e : Element} {k : Kind}

/-! ## 1. Names and documents of elements -/

/-- **What an element is called** hangs on its kind and name, on the URI that it declares and on the
    prefix of its schema. -/
theorem name_eq_of {v w : View} {config : SiteConfig} {a : Element} (kind : a.kind = e.kind)
    (raw : a.name = e.name) (uri : a.declaredUri = e.declaredUri)
    (minting : (v.owner a).mintingPrefix = (w.owner e).mintingPrefix) :
    name ⟨v, config⟩ a = name ⟨w, config⟩ e := by
  have canonical : View.canonicalName a = View.canonicalName e := by
    unfold View.canonicalName
    rw [kind, raw]
  have curie : v.uri a false false = w.uri e false false := by
    show a.declaredUri.getD (v.mintedCurie a false) = e.declaredUri.getD (w.mintedCurie e false)
    unfold View.mintedCurie
    rw [uri, minting, kind, canonical]
  unfold name uriName?
  rw [canonical]
  dsimp only
  rw [curie]
  unfold namesByUri
  rw [kind]

/-- What is not documented elsewhere has a page. -/
theorem hasPage_of_not_external (h : s.isExternal e = false) : s.hasPage e = true := by
  cases e with
  | type t => simp [hasPage, leavesOut, h]
  | cls c => simp [hasPage, h]
  | slot c => simp [hasPage, h]
  | enum c => simp [hasPage, h]
  | subset c => simp [hasPage, h]

theorem mem_kinds (k : Kind) : k ∈ Kind.all := by
  cases k <;> decide

theorem mem_allElements (h : e ∈ s.view.all k true) : e ∈ s.allElements :=
  List.mem_flatMap.mpr ⟨k, mem_kinds k, h⟩

/-- **No two elements have one kind and name.** -/
theorem subjects_nodup (s : Site) : (s.allElements.map Element.subject).Nodup := by
  unfold allElements
  rw [List.map_flatMap]
  refine List.nodup_flatMap.mpr ⟨fun k _ => ?_, ?_⟩
  · have names := s.view.names_nodup k true
    refine List.Nodup.of_map (fun | .element _ n => n | _ => "") ?_
    simpa [List.map_map, Function.comp_def, Element.subject] using names
  · refine List.Pairwise.imp_of_mem ?_ (show Kind.all.Nodup by decide)
    intro k k' _ _ hne
    refine List.disjoint_left.mpr fun x hx hx' => ?_
    obtain ⟨e, he, rfl⟩ := List.mem_map.mp hx
    obtain ⟨e', he', same⟩ := List.mem_map.mp hx'
    injection same with kinds
    exact hne ((s.view.kind_of_mem he).symm.trans (kinds.symm.trans (s.view.kind_of_mem he')))

theorem documents_eq (hf : s.config.format.isSingleFile = false) :
    s.plan.documents = s.indexDocument :: s.view.importsClosure.map s.schemaDocument
      ++ (s.allElements.filter s.hasPage).map s.elementDocument := by
  unfold plan
  rw [if_neg (by rw [hf]; exact Bool.false_ne_true)]

/-- **An element with a page has one document in the plan.** -/
theorem filter_subject_element (hf : s.config.format.isSingleFile = false)
    (he : e ∈ s.view.all k true) (hp : s.hasPage e = true) :
    s.plan.documents.filter (·.subject = .element k e.name) = [s.elementDocument e] := by
  have kind := s.view.kind_of_mem he
  have no_schema : (s.view.importsClosure.map s.schemaDocument).filter
      (·.subject = .element k e.name) = [] := by
    refine List.filter_eq_nil_iff.mpr fun d hd => ?_
    obtain ⟨n, _, rfl⟩ := List.mem_map.mp hd
    simp [schemaDocument]
  have alone : (s.allElements.filter s.hasPage).filter (·.subject = e.subject) = [e] := by
    refine filter_key_of_mem ?_ (List.mem_filter.mpr ⟨mem_allElements he, hp⟩)
    exact (List.filter_sublist.map _).nodup s.subjects_nodup
  rw [documents_eq hf, List.cons_append, List.filter_cons_of_neg (by simp [indexDocument]),
    List.filter_append, no_schema, List.nil_append, List.filter_map]
  have same : ((fun d : Document => decide (d.subject = .element k e.name)) ∘ s.elementDocument) =
      fun x => decide (x.subject = e.subject) := by
    funext x
    simp [elementDocument, Element.subject, kind]
  rw [same, alone]
  rfl

/-! ## 2. Paths -/

theorem isName_kindFolder (k : Kind) : Path.IsName k.folder := by
  cases k <;> exact ⟨by decide, by decide, by decide, by decide⟩

theorem isName_schemaFolder : Path.IsName schemaFolder :=
  ⟨by decide, by decide, by decide, by decide⟩

/-- A file is as absolute as its stem. -/
theorem isAbsolute_fileName {stem : String} (h : Path.isAbsolute stem = false) :
    Path.isAbsolute (s.fileName stem) = false := by
  unfold fileName
  rw [String.append_assoc]
  by_cases he : stem = ""
  · rw [he, String.empty_append, Path.isAbsolute_append (by decide)]
    rfl
  · rw [Path.isAbsolute_append he, h]

/-- **The path of a planned document**, written out. -/
theorem below_folder {folder stem : String} (hf : Path.IsName folder)
    (h : Path.isAbsolute stem = false) :
    s.below folder (s.fileName stem) =
      (if s.config.foldersByKind then folder ++ "/" else "") ++ s.fileName stem := by
  unfold below Path.join
  cases s.config.foldersByKind with
  | false => simp
  | true =>
      rw [if_pos rfl, if_pos rfl, if_neg (by simp [isAbsolute_fileName h, hf.filled]),
        if_neg (by simp [Path.not_slash_of_name hf])]

/-- **From the index the way to a page is its path in the plan.** -/
theorem pagePath_index (h : Path.isAbsolute (s.name e) = false) :
    s.pagePath e true = (s.elementDocument e).path := by
  show s.folderFrom e.kind true ++ s.name e ++ "." ++ s.config.format.suffix =
    s.below e.kind.folder (s.fileName (s.name e))
  rw [below_folder (isName_kindFolder e.kind) h]
  unfold folderFrom fileName
  cases s.config.foldersByKind <;> simp [String.append_assoc]

/-- **From a page the way to another is up from its folder**, if pages have folders. -/
theorem pagePath_page (h : Path.isAbsolute (s.name e) = false) :
    s.pagePath e false =
      if s.config.foldersByKind then "../" ++ (s.elementDocument e).path
      else (s.elementDocument e).path := by
  rw [← pagePath_index h]
  unfold pagePath pageStem folderFrom
  cases s.config.foldersByKind <;> simp [String.append_assoc]

/-! ## 3. Links -/

theorem link_of_external (h : s.isExternal e = true) (fromIndex : Bool) :
    s.link e fromIndex = s.uriLink e := by
  unfold link
  rw [if_pos h]

theorem link_of_not_external (h : s.isExternal e = false) (fromIndex : Bool) :
    s.link e fromIndex = .page (s.label e) (s.pagePath e fromIndex) := by
  unfold link
  rw [if_neg (by rw [h]; exact Bool.false_ne_true)]

theorem uri_of_not_subset (h : e.kind ≠ .subset) (expand : Bool) :
    s.uri e expand = s.view.uri e expand s.config.foldersByKind := by
  cases e with
  | subset _ => exact absurd rfl h
  | _ => rfl

theorem uri_of_subset (h : e.kind = .subset) (expand : Bool) : s.uri e expand = s.name e := by
  cases e with
  | subset _ => rfl
  | _ => cases h

/-- A link to a page is the hyperlink of the format. -/
theorem render_link_of_not_external (h : s.isExternal e = false) (fromIndex : Bool) :
    s.render (s.link e fromIndex) =
      s.config.format.hyperlink (s.label e) (s.pagePath e fromIndex) := by
  rw [link_of_not_external h]
  rfl

/-- **What the link of an element shows that is documented elsewhere**: the compact URI over the
    URI, or the name in place of both. -/
theorem render_link_of_external (h : s.isExternal e = true) (fromIndex : Bool) :
    s.render (s.link e fromIndex) =
      if e.kind = .subset then s.config.format.hyperlink (s.name e) (s.name e)
      else s.config.format.hyperlink (s.view.uri e false s.config.foldersByKind)
        (s.view.uri e true s.config.foldersByKind) := by
  rw [link_of_external h]
  show s.config.format.hyperlink (s.uri e false) (s.uri e true) = _
  split
  · rename_i subset
    rw [uri_of_subset subset, uri_of_subset subset]
  · rename_i other
    rw [uri_of_not_subset other, uri_of_not_subset other]

/-- **Links and the plan agree.** An element that is documented here has one document in the plan,
    and all its links lead to the path of that document, from the index and from other pages. One
    that is documented elsewhere is linked by its URI; a subset has none and shows its name. What a
    name stands for is linked in the same way. -/
theorem link_agrees (s : Site) (hf : s.config.format.isSingleFile = false) (k : Kind) (e : Element)
    (he : e ∈ s.view.all k true) (hn : Path.isAbsolute (s.name e) = false) :
    (s.isExternal e = false → ∃ d : Document,
      s.plan.documents.filter (·.subject = .element k e.name) = [d] ∧
      s.render (s.link e true) = s.config.format.hyperlink (s.label e) d.path ∧
      s.render (s.link e false) = s.config.format.hyperlink (s.label e)
        (if s.config.foldersByKind then "../" ++ d.path else d.path)) ∧
    (s.isExternal e = true → ∀ fromIndex, s.render (s.link e fromIndex) =
      if k = .subset then s.config.format.hyperlink (s.name e) (s.name e)
      else s.config.format.hyperlink (s.view.uri e false s.config.foldersByKind)
        (s.view.uri e true s.config.foldersByKind)) ∧
    ∀ n target, s.view.element? n = some target →
      ∀ fromIndex, s.linkTo n fromIndex = s.link target fromIndex := by
  refine ⟨fun here => ?_, fun elsewhere i => ?_, fun n target found i => ?_⟩
  · refine ⟨s.elementDocument e,
      filter_subject_element hf he (hasPage_of_not_external here), ?_, ?_⟩
    · rw [render_link_of_not_external here, pagePath_index hn]
    · rw [render_link_of_not_external here, pagePath_page hn]
  · rw [render_link_of_external elsewhere, s.view.kind_of_mem he]
  · unfold linkTo
    rw [found]

/-- A class with a name of two words. -/
def namedThing : Class := { name := "named thing" }

/-- A site of one class, with folders. -/
def namedThingSite : Site where
  view := View.ofSchemas { id := "p", name := "p", classes := [namedThing] } []
  config := { foldersByKind := true }

theorem link_agrees_namedThing :
    namedThingSite.config.format.isSingleFile = false ∧
      Element.cls namedThing ∈ namedThingSite.view.all .cls true ∧
      Path.isAbsolute (namedThingSite.name (.cls namedThing)) = false ∧
      ∃ d : Document,
        namedThingSite.plan.documents.filter
          (·.subject = .element .cls (Element.cls namedThing).name) = [d] ∧
        d.path = "classes/NamedThing.md" ∧
        namedThingSite.render (namedThingSite.link (.cls namedThing) false) =
          "[NamedThing](../classes/NamedThing.md)" := by
  have mem : Element.cls namedThing ∈ namedThingSite.view.all .cls true := List.mem_singleton.mpr rfl
  have relative : Path.isAbsolute (namedThingSite.name (.cls namedThing)) = false := by
    decide +kernel
  obtain ⟨d, planned, _, shown⟩ :=
    (link_agrees namedThingSite rfl .cls (.cls namedThing) mem relative).1 rfl
  have only : namedThingSite.plan.documents.filter
      (·.subject = .element .cls (Element.cls namedThing).name) =
        [⟨.cls, .element .cls "named thing", "classes/NamedThing.md"⟩] := by
    decide +kernel
  have path : d.path = "classes/NamedThing.md" := by
    rw [only] at planned
    cases planned
    rfl
  refine ⟨rfl, mem, relative, d, planned, path, ?_⟩
  rw [shown, path]
  decide +kernel

/-- A site of the schema of basic types, with a subset of its own. -/
def coreSite : Site where
  view := View.ofSchemas
    { id := basicTypesId, name := "types", defaultPrefix := some "linkml",
      subsets := [{ name := "Core", fromSchema := some basicTypesId }] } []
  config := {}

/-- The link to a subset that is documented elsewhere shows no URI. -/
theorem link_external_subset :
    ∃ e ∈ coreSite.view.all .subset true, coreSite.isExternal e = true ∧
      Path.isAbsolute (coreSite.name e) = false ∧
      ∀ fromIndex, coreSite.render (coreSite.link e fromIndex) ≠
        coreSite.config.format.hyperlink (coreSite.view.uri e false coreSite.config.foldersByKind)
          (coreSite.view.uri e true coreSite.config.foldersByKind) := by
  refine ⟨.subset { name := "Core", fromSchema := some basicTypesId }, List.mem_singleton.mpr rfl,
    by decide +kernel, by decide +kernel, ?_⟩
  decide +kernel

end Site

end SchemaPages
