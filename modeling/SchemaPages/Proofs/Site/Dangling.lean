import SchemaPages.Proofs.Site.PageLinks
import SchemaPages.Proofs.View.Defined
/-!
# Dangling links

A link dangles that leads from its page to where no document of the plan is. From a document that
stands directly in its folder, links to elements of the view never do. What else a page shows may have
another name than the element that the plan has a page for: a slot may have another URI in a class,
and a definition may be shadowed by one that is documented elsewhere.

* `Site.NoDangling`: no link of any page dangles;
* `Site.InPlace`, `Site.PlainNames`: documents that stand directly in their folders;
* `leads_of_inPlace`: from such documents, a link leads where the same link of the index does;
* `noDangling_iff`: when no link dangles;
* `noDangling_of_canonicalNames`: no link does where elements are not named by their URIs.
-/

namespace SchemaPages

namespace Site

/-! ## 1. Links that lead somewhere -/

/-- Where the documents of the plan are. -/
def places (s : Site) : List (List String) := s.plan.documents.map fun d => Path.leads [] d.path

/-- **No link dangles**: every link to a page, on any page that is built for a document, leads from
    the folder of the document to a document. -/
def NoDangling (s : Site) : Prop :=
  ∀ fs, ∀ d ∈ s.plan.documents, ∀ p, s.page? fs d.subject = .ok (some p) →
    ∀ label path, .page label path ∈ p.links → Path.leads (Path.folderOf d.path) path ∈ s.places

/-- The folders that pages below the top stand in. -/
def home (s : Site) (folder : String) : List String := if s.config.foldersByKind then [folder] else []

/-- Where pages are meant to stand, by what they are about. -/
def homeOf (s : Site) : Subject → List String
  | .index => []
  | .schema _ => s.home schemaFolder
  | .element kind _ => s.home kind.folder

/-- The document stands directly in its folder, which a slash in its name may keep it from. -/
def InPlace (s : Site) (d : Document) : Prop := Path.folderOf d.path = s.homeOf d.subject

/-- From the document, the link to the element leads to a document. -/
def Lands (s : Site) (d : Document) (e : Element) : Prop :=
  Path.leads (Path.folderOf d.path) (s.pagePath e (d.subject = .index)) ∈ s.places

/-- The page of the element, by its own name and kind, is in the plan. -/
def Planned (s : Site) (e : Element) : Prop := Path.leads [] (s.pagePath e true) ∈ s.places

/-- **Whatever a page shows besides elements of the view** is documented elsewhere, or has its own
    page in the plan. -/
def ShowsPlanned (s : Site) : Prop :=
  ∀ fs, ∀ d ∈ s.plan.documents, ∀ p, s.page? fs d.subject = .ok (some p) →
    ∀ e, s.Shows d.subject e → s.isExternal e = true ∨ s.Planned e

/-- No name of a document has a slash. -/
structure PlainNames (s : Site) : Prop where
  index : '/' ∉ s.config.indexName.toList
  schemas : ∀ n ∈ s.view.importsClosure, '/' ∉ n.toList
  elements : ∀ e ∈ s.allElements, s.hasPage e = true → '/' ∉ (s.name e).toList

/-! ## 2. Documents in their folders -/

section Places

variable {s : Site} {e : Element}

theorem suffix_plain (f : OutputFormat) : '/' ∉ f.suffix.toList := by
  cases f <;> decide

theorem two_le_length_suffix (f : OutputFormat) : 2 ≤ f.suffix.toList.length := by
  cases f <;> decide

/-- A file is a single step when its stem is. -/
theorem isName_fileName {stem : String} (h : '/' ∉ stem.toList) : Path.IsName (s.fileName stem) := by
  have long := two_le_length_suffix s.config.format
  have other : ∀ t : String, t.toList.length ≤ 2 → s.fileName stem ≠ t := by
    intro t ht same
    have sizes := congrArg (fun x : String => x.toList.length) same
    simp only [fileName, String.toList_append, List.length_append] at sizes
    rw [show ".".toList.length = 1 from rfl] at sizes
    omega
  refine ⟨other "" (by decide), other "." (by decide), other ".." (by decide), ?_⟩
  simp only [fileName, String.toList_append, List.mem_append, not_or]
  exact ⟨⟨h, by decide⟩, suffix_plain _⟩

theorem leads_below_folder {folder stem : String} (hf : Path.IsName folder)
    (h : '/' ∉ stem.toList) :
    Path.leads [] (s.below folder (s.fileName stem)) = s.home folder ++ [s.fileName stem] := by
  have file := isName_fileName (s := s) h
  rw [below_folder hf (Path.isAbsolute_of_plain h)]
  unfold home
  cases s.config.foldersByKind with
  | false =>
      rw [if_neg Bool.false_ne_true, if_neg Bool.false_ne_true, String.empty_append]
      exact Path.leads_name file
  | true =>
      rw [if_pos rfl, if_pos rfl]
      exact Path.leads_below hf file

theorem folderOf_below {folder stem : String} (hf : Path.IsName folder) (h : '/' ∉ stem.toList) :
    Path.folderOf (s.below folder (s.fileName stem)) = s.home folder := by
  unfold Path.folderOf
  rw [leads_below_folder hf h, List.dropLast_concat]

/-- **The documents of a plan**, by their subjects. -/
theorem mem_documents (hf : s.config.format.isSingleFile = false) {d : Document} :
    d ∈ s.plan.documents ↔ d = s.indexDocument ∨
      (∃ n ∈ s.view.importsClosure, d = s.schemaDocument n) ∨
      ∃ e ∈ s.allElements, s.hasPage e = true ∧ d = s.elementDocument e := by
  rw [documents_eq hf]
  simp only [List.cons_append, List.mem_cons, List.mem_append, List.mem_map, List.mem_filter,
    and_assoc, eq_comm (a := d)]

/-- **A document with a plain name stands in its folder.** -/
theorem inPlace_of_plainNames (hf : s.config.format.isSingleFile = false) (plain : s.PlainNames)
    {d : Document} (hd : d ∈ s.plan.documents) : s.InPlace d := by
  rcases (mem_documents hf).mp hd with rfl | ⟨n, hn, rfl⟩ | ⟨e, he, hp, rfl⟩
  · show Path.folderOf (s.fileName s.config.indexName) = []
    unfold Path.folderOf
    rw [Path.leads_name (isName_fileName plain.index)]
    rfl
  · exact folderOf_below isName_schemaFolder (plain.schemas n hn)
  · exact folderOf_below (isName_kindFolder e.kind) (plain.elements e he hp)

/-! ## 3. Links from there -/

theorem homeOf_eq {subject : Subject} (h : subject ≠ .index) :
    ∃ folder, Path.IsName folder ∧ s.homeOf subject = s.home folder := by
  cases subject with
  | index => exact absurd rfl h
  | schema _ => exact ⟨_, isName_schemaFolder, rfl⟩
  | element kind _ => exact ⟨_, isName_kindFolder kind, rfl⟩

/-- **From a document in its folder** a link leads to where the same link of the index does. -/
theorem leads_of_inPlace {d : Document} (h : s.InPlace d) (e : Element) :
    Path.leads (Path.folderOf d.path) (s.pagePath e (d.subject = .index)) =
      Path.leads [] (s.pagePath e true) := by
  unfold InPlace at h
  rw [h]
  by_cases hi : d.subject = .index
  · rw [decide_eq_true hi, hi]
    rfl
  · obtain ⟨folder, name, stands⟩ := homeOf_eq (s := s) hi
    rw [stands, decide_eq_false hi]
    unfold home
    cases hk : s.config.foldersByKind with
    | false => simp [pagePath, pageStem, folderFrom, hk]
    | true =>
        have down : s.pagePath e true = e.kind.folder ++ "/" ++ s.fileName (s.name e) := by
          simp [pagePath, pageStem, folderFrom, fileName, hk, String.append_assoc]
        have up : s.pagePath e false = "../" ++ s.pagePath e true := by
          simp [pagePath, pageStem, folderFrom, hk, String.append_assoc]
        rw [if_pos rfl, up]
        refine Path.leads_up name ?_
        rw [down]
        exact Path.isAbsolute_below (isName_kindFolder e.kind) _

theorem lands_iff_of_inPlace {d : Document} (h : s.InPlace d) : s.Lands d e ↔ s.Planned e := by
  unfold Lands Planned
  rw [leads_of_inPlace h]

/-- **Elements of the view that are documented here are planned**, unless by an absolute name. -/
theorem planned_of_mem (hf : s.config.format.isSingleFile = false) (he : e ∈ s.allElements)
    (hx : s.isExternal e = false) (relative : Path.isAbsolute (s.name e) = false) :
    s.Planned e := by
  have doc : s.elementDocument e ∈ s.plan.documents :=
    (mem_documents hf).mpr (Or.inr (Or.inr ⟨e, he, hasPage_of_not_external hx, rfl⟩))
  unfold Planned
  rw [pagePath_index relative]
  exact List.mem_map_of_mem doc

theorem not_external_of_link {label path : String} {i : Bool} (h : .page label path = s.link e i) :
    s.isExternal e = false ∧ path = s.pagePath e i := by
  cases hx : s.isExternal e with
  | true => rw [link_of_external hx] at h; cases h
  | false => rw [link_of_not_external hx] at h; cases h; exact ⟨rfl, rfl⟩

/-- A page that shows something is not the index. -/
theorem not_index_of_shows {subject : Subject} (h : s.Shows subject e) : subject ≠ .index := by
  rintro rfl
  cases h

end Places

/-! ## 4. When no link dangles -/

section Exact

variable {s : Site}

/-- A page keeps its links when each of its elements that is documented here has a page where the
    link to it leads to. -/
theorem noDangling_iff_lands : s.NoDangling ↔
    ∀ fs, ∀ d ∈ s.plan.documents, ∀ p, s.page? fs d.subject = .ok (some p) →
      ∀ e, s.link e (d.subject = .index) ∈ p.links → s.isExternal e = false → s.Lands d e := by
  constructor
  · intro h fs d hd p hp e held here
    rw [link_of_not_external here] at held
    exact h fs d hd p hp _ _ held
  · intro h fs d hd p hp label path held
    obtain ⟨e, same, _⟩ := accounted_of_page hp held rfl
    obtain ⟨here, rfl⟩ := not_external_of_link same
    exact h fs d hd p hp e (same ▸ held) here

/-- **From a document in its folder** a link leads to a document when the element is planned that
    accounts for the link. -/
theorem exists_accounted {fs : FileSystem} {d : Document} {p : Page} {e : Element}
    (place : s.InPlace d) (hp : s.page? fs d.subject = .ok (some p))
    (held : s.link e (d.subject = .index) ∈ p.links) (here : s.isExternal e = false) :
    ∃ a, s.link a (d.subject = .index) ∈ p.links ∧ s.isExternal a = false ∧
      (s.Lands d e ↔ s.Planned a) ∧ (a ∈ s.allElements ∨ s.Shows d.subject a) := by
  have linked := link_of_not_external here (d.subject = .index)
  obtain ⟨a, same, source⟩ := accounted_of_page hp held (by rw [linked]; rfl)
  obtain ⟨ha, path⟩ := not_external_of_link (linked.symm.trans same)
  refine ⟨a, same ▸ held, ha, ?_, source⟩
  rw [← lands_iff_of_inPlace place]
  unfold Lands
  rw [path]

/-- **In its folder a document keeps its links** when those elements have a page that are no elements
    of the view, or have an absolute name. -/
theorem lands_of_shown (hf : s.config.format.isSingleFile = false) {fs : FileSystem}
    {d : Document} {p : Page} {e : Element} (place : s.InPlace d)
    (hp : s.page? fs d.subject = .ok (some p)) (held : s.link e (d.subject = .index) ∈ p.links)
    (here : s.isExternal e = false)
    (h : ∀ a, s.link a (d.subject = .index) ∈ p.links → s.isExternal a = false →
      s.Shows d.subject a ∨ Path.isAbsolute (s.name a) = true → s.Planned a) : s.Lands d e := by
  obtain ⟨a, ha, hx, lands, source⟩ := exists_accounted place hp held here
  refine lands.mpr ?_
  rcases source with mem | shown
  · cases relative : Path.isAbsolute (s.name a) with
    | true => exact h a ha hx (Or.inr relative)
    | false => exact planned_of_mem hf mem hx relative
  · exact h a ha hx (Or.inl shown)

/-- **Among plain names** no link dangles exactly when whatever pages show besides elements of the
    view is planned. -/
theorem noDangling_iff_of_plainNames (hf : s.config.format.isSingleFile = false)
    (plain : s.PlainNames) : s.NoDangling ↔ s.ShowsPlanned := by
  rw [noDangling_iff_lands]
  constructor
  · intro h fs d hd p hp e shown
    cases here : s.isExternal e with
    | true => exact Or.inl rfl
    | false =>
        have held := link_mem_of_shows hp shown
        rw [← decide_eq_false (not_index_of_shows shown)] at held
        have place := inPlace_of_plainNames hf plain hd
        exact Or.inr ((lands_iff_of_inPlace place).mp (h fs d hd p hp e held here))
  · intro h fs d hd p hp e held here
    obtain ⟨a, _, hx, lands, source⟩ :=
      exists_accounted (inPlace_of_plainNames hf plain hd) hp held here
    refine lands.mpr ?_
    rcases source with mem | shown
    · have name := plain.elements a mem (hasPage_of_not_external hx)
      exact planned_of_mem hf mem hx (Path.isAbsolute_of_plain name)
    · rcases h fs d hd p hp a shown with elsewhere | planned
      · rw [hx] at elsewhere
        cases elsewhere
      · exact planned

end Exact

/-- **When no link dangles.** In its folder, a document keeps its links exactly when what it shows
    besides elements of the view, and what has an absolute name, is planned; out of it, when each of
    its links happens to find a document. Where all names are plain, nothing is left but that
    whatever pages show besides elements of the view is planned or documented elsewhere. -/
theorem noDangling_iff (s : Site) (hf : s.config.format.isSingleFile = false) :
    (s.NoDangling ↔
      ∀ fs, ∀ d ∈ s.plan.documents, ∀ p, s.page? fs d.subject = .ok (some p) →
        ∀ e, s.link e (d.subject = .index) ∈ p.links → s.isExternal e = false →
          (s.InPlace d → s.Shows d.subject e ∨ Path.isAbsolute (s.name e) = true → s.Planned e) ∧
          (¬ s.InPlace d → s.Lands d e)) ∧
    (s.PlainNames → (s.NoDangling ↔ s.ShowsPlanned)) := by
  refine ⟨?_, fun plain => noDangling_iff_of_plainNames hf plain⟩
  rw [noDangling_iff_lands]
  constructor
  · intro h fs d hd p hp e held here
    have lands := h fs d hd p hp e held here
    exact ⟨fun place _ => (lands_iff_of_inPlace place).mp lands, fun _ => lands⟩
  · intro h fs d hd p hp e held here
    by_cases place : s.InPlace d
    · exact lands_of_shown hf place hp held here
        fun a ha hx shown => (h fs d hd p hp a ha hx).1 place shown
    · exact (h fs d hd p hp e held here).2 place

/-- A class that gives a slot of its own another URI. -/
def renamingClass : Class where
  name := "C"
  slots := ["a"]
  slotUsage := [{ name := "a", uri := some "p:b" }]

/-- A site of that class, with slots named by their URIs. -/
def renamingSite : Site where
  view := View.ofSchemas
    { id := "p", name := "p", slots := [{ name := "a" }], classes := [renamingClass] } []
  config := { slotUris := true }

theorem noDangling_iff_renaming :
    renamingSite.config.format.isSingleFile = false ∧ renamingSite.PlainNames ∧
      (renamingSite.NoDangling ↔ renamingSite.ShowsPlanned) := by
  have plain : renamingSite.PlainNames :=
    ⟨by decide +kernel, by decide +kernel, by decide +kernel⟩
  exact ⟨rfl, plain, (noDangling_iff renamingSite rfl).2 plain⟩

/-- The slot as the class has it. -/
def renamedSlot : Slot where
  name := "a"
  uri := some "p:b"
  domainOf := ["C"]

theorem classInducedSlots_renaming : renamedSlot ∈ renamingSite.view.classInducedSlots "C" := by
  have classes : renamingSite.view.classAncestors "C" true true = ["C"] := by
    have orphan : renamingSite.view.classParents "C" true true = [] := by decide +kernel
    simp only [View.classAncestors, View.ancestorsBy, orphan, Walk.preorder]
    rfl
  have slots : renamingSite.view.slotAncestors "a" true false = [] := by
    have orphan : renamingSite.view.slotParents "a" true = [] := by decide +kernel
    simp only [View.slotAncestors, View.ancestorsBy, orphan, Walk.preorder]
    rfl
  have declared : renamingSite.view.classSlots "C" = ["a"] := by
    simp only [View.classSlots, classes]
    decide +kernel
  have induced : renamingSite.view.inducedSlot "a" (some "C") = some renamedSlot := by
    simp only [View.inducedSlot, classes, slots]
    decide +kernel
  simp only [View.classInducedSlots, declared, List.filterMap_cons, induced]
  exact List.mem_cons_self

/-- **A link may dangle**: the page of the class links to the slot by its URI in the class, the plan
    has the page of the slot by its own. -/
theorem dangling_renaming : ¬ renamingSite.NoDangling := by
  intro h
  have planned : (⟨.cls, .element .cls "C", "C.md"⟩ : Document) ∈ renamingSite.plan.documents := by
    decide +kernel
  have found : renamingSite.view.elementOfKind? .cls "C" = some (.cls renamingClass) :=
    View.elementOfKind?_of_mem (v := renamingSite.view) (k := .cls) (e := .cls renamingClass)
      (List.mem_singleton.mpr rfl)
  have built : renamingSite.page? {} (.element .cls "C") =
      .ok (some (.cls (renamingSite.classPage renamingClass []))) := by
    unfold page?
    dsimp only
    rw [found]
    rfl
  have held := link_mem_of_shows built (.slot classInducedSlots_renaming)
  have link : renamingSite.link (.slot renamedSlot) false = .page "a" "b.md" := by
    decide +kernel
  rw [link] at held
  have leads := h {} _ planned _ built "a" "b.md" held
  revert leads
  decide +kernel

/-! ## 5. Names that are no URIs -/

section Canonical

variable {s : Site}

/-- Nothing that a page shows is shadowed by an element that is documented elsewhere. -/
def Unshadowed (s : Site) : Prop :=
  ∀ subject e, s.Shows subject e → ∀ a ∈ s.allElements, a.subject = e.subject →
    s.isExternal a = true → s.isExternal e = true

theorem mem_allElements_of_subject {a : Element} {k : Kind} {n : String}
    (h : a ∈ s.view.all k true) (hn : a.name = n) :
    a ∈ s.allElements ∧ a.subject = .element k n := by
  refine ⟨mem_allElements h, ?_⟩
  unfold Element.subject
  rw [s.view.kind_of_mem h, hn]

theorem exists_slot_of_name {n : String} (h : n ∈ s.view.merged.slots.map Slot.name) :
    ∃ a ∈ s.allElements, a.subject = .element .slot n := by
  obtain ⟨x, hx, rfl⟩ := List.mem_map.mp h
  obtain ⟨mem, same⟩ := mem_allElements_of_subject (s := s) (k := .slot) (List.mem_map_of_mem hx) rfl
  exact ⟨.slot x, mem, same⟩

theorem exists_namesake_of_listed {t : Schema} (ht : t ∈ s.view.schemas) {e : Element}
    (he : e ∈ t.listed) : ∃ a ∈ s.allElements, a.subject = e.subject := by
  have covered := View.covers_merged ht
  simp only [Schema.listed, List.mem_append, List.mem_map] at he
  rcases he with ((⟨c, hc, rfl⟩ | ⟨x, hx, rfl⟩) | ⟨x, hx, rfl⟩) | ⟨x, hx, rfl⟩
  · obtain ⟨a, ha, same⟩ := List.mem_map.mp (covered.classes c hc)
    exact ⟨.cls a, mem_allElements_of_subject (k := .cls) (List.mem_map_of_mem ha) same⟩
  · exact exists_slot_of_name (covered.slots x hx)
  · obtain ⟨a, ha, same⟩ := List.mem_map.mp (covered.enums x hx)
    exact ⟨.enum a, mem_allElements_of_subject (k := .enum) (List.mem_map_of_mem ha) same⟩
  · obtain ⟨a, ha, same⟩ := List.mem_map.mp (covered.types x hx)
    exact ⟨.type a, mem_allElements_of_subject (k := .type) (List.mem_map_of_mem ha) same⟩

theorem exists_namesake_of_inducedSlot {n : String} {cls : Option String} {slot : Slot}
    (h : s.view.inducedSlot n cls = some slot) :
    ∃ a ∈ s.allElements, a.subject = (Element.slot slot).subject := by
  obtain ⟨rfl, known⟩ := View.slot_of_inducedSlot h
  exact exists_slot_of_name known

/-- **Whatever a page shows has a namesake in the view.** -/
theorem exists_namesake {subject : Subject} {e : Element} (h : s.Shows subject e) :
    ∃ a ∈ s.allElements, a.subject = e.subject := by
  cases h with
  | definition found mem =>
      exact exists_namesake_of_listed (List.mem_reverse.mp (List.mem_of_find?_eq_some found)) mem
  | slot mem =>
      obtain ⟨n, _, induced⟩ := List.mem_filterMap.mp mem
      exact exists_namesake_of_inducedSlot induced
  | usage _ _ mem =>
      obtain ⟨n, _, induced⟩ := List.mem_filterMap.mp mem
      exact exists_namesake_of_inducedSlot induced

/-- Namesakes have one page where no names are URIs. -/
theorem pagePath_of_subject {a e : Element} (slots : s.config.slotUris = false)
    (classes : s.config.classUris = false) (h : a.subject = e.subject) (i : Bool) :
    s.pagePath a i = s.pagePath e i := by
  obtain ⟨kind, name⟩ : a.kind = e.kind ∧ a.name = e.name := by
    injection h with hk hn
    exact ⟨hk, hn⟩
  have canonical : ∀ x : Element, s.name x = View.canonicalName x := by
    intro x
    have no_uri : s.namesByUri x.kind = false := by
      cases x.kind <;> simp [namesByUri, slots, classes]
    simp [Site.name, uriName?, no_uri]
  have same : s.name a = s.name e := by
    rw [canonical, canonical]
    unfold View.canonicalName
    rw [kind, name]
  unfold pagePath pageStem
  rw [same, kind]

/-- **No link dangles where no names are URIs**, unless what a page shows is shadowed by something
    that is documented elsewhere. -/
theorem noDangling_of_canonicalNames (hf : s.config.format.isSingleFile = false)
    (plain : s.PlainNames) (slots : s.config.slotUris = false)
    (classes : s.config.classUris = false) (unshadowed : s.Unshadowed) : s.NoDangling := by
  refine (noDangling_iff_of_plainNames hf plain).mpr ?_
  intro fs d _ p _ e shown
  obtain ⟨a, mem, same⟩ := exists_namesake shown
  cases ha : s.isExternal a with
  | true => exact Or.inl (unshadowed _ e shown a mem same ha)
  | false =>
      have name := plain.elements a mem (hasPage_of_not_external ha)
      have planned := planned_of_mem hf mem ha (Path.isAbsolute_of_plain name)
      unfold Planned at planned
      rw [pagePath_of_subject slots classes same] at planned
      exact Or.inr planned

end Canonical

end Site

end SchemaPages
