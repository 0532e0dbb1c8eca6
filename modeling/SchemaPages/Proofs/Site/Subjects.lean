import SchemaPages.Proofs.Site.PageLinks
import SchemaPages.Proofs.View.Domains
/-!
# Documents and their subjects

The plan says which documents there are, and a page is built later for the subject of each. Elements
are divided between the documents and those without one, and the page of a document is that of its
element, named as its file is. Schemas are looked up by name, so each has its own page only where no
two have one name.

* `Site.Divides`, `divides_plan`: every element is in the plan once;
* `name_inducedSlot`, `name_inducedType`: induced definitions keep their names on pages;
* `Site.Pictures`, `showsElement_elementDocument`: the page of a document is that of its element;
* `plan_partitions`: the plan as a whole;
* `Site.OwnPages`, `ownPages_iff`: when every schema has its own page;
* `page_of_planned`: every document has a page of its template.
-/

namespace SchemaPages

/-- What a skipped entry is about. -/
def Skipped.subject (x : Skipped) : Subject := .element x.kind x.name

/-- The template that a page is made for. -/
def Page.template : Page → TemplateKind
  | .index _ => .index
  | .schema _ => .schema
  | .cls _ => .cls
  | .slot _ => .slot
  | .enum _ => .enum
  | .type _ => .type
  | .subset _ => .subset

namespace Site

variable {s : Site} {e : Element} {k : Kind}

/-! ## 1. Elements in the plan -/

/-- What elements a site is about: all of a view, kind by kind and in the order of merging. -/
def elementSubjects (s : Site) : List Subject :=
  [Kind.cls, .slot, .enum, .type, .subset].flatMap fun k =>
    (s.view.all k true).map fun e => .element k e.name

/-- **Documents and skipped entries divide the elements**: both stand in the order of elements, and
    every element is in one of them, once. -/
structure Divides (s : Site) (documents : List Document) (skipped : List Skipped) : Prop where
  documents_order : (documents.map Document.subject).Sublist s.elementSubjects
  skipped_order : (skipped.map Skipped.subject).Sublist s.elementSubjects
  of_hasPage : ∀ k, ∀ e ∈ s.view.all k true, s.hasPage e = true →
    (documents.map Document.subject).count (.element k e.name) = 1 ∧
      (skipped.map Skipped.subject).count (.element k e.name) = 0
  of_not_hasPage : ∀ k, ∀ e ∈ s.view.all k true, s.hasPage e = false →
    (documents.map Document.subject).count (.element k e.name) = 0 ∧
      (skipped.map Skipped.subject).count (.element k e.name) = 1

theorem elementSubjects_eq (s : Site) : s.elementSubjects = s.allElements.map Element.subject := by
  unfold elementSubjects allElements
  rw [List.map_flatMap]
  refine List.flatMap_congr fun k _ => List.map_congr_left fun e he => ?_
  unfold Element.subject
  rw [s.view.kind_of_mem he]

theorem subject_of_mem (he : e ∈ s.view.all k true) : Subject.element k e.name = e.subject := by
  unfold Element.subject
  rw [s.view.kind_of_mem he]

section Filters

variable {p : Element → Bool}

theorem filter_subjects_sublist (s : Site) (p : Element → Bool) :
    ((s.allElements.filter p).map Element.subject).Sublist (s.allElements.map Element.subject) :=
  List.filter_sublist.map Element.subject

/-- An element that passes is among those that pass once, since no two have one subject. -/
theorem count_subject_of_pass (he : e ∈ s.allElements) (hp : p e = true) :
    ((s.allElements.filter p).map Element.subject).count e.subject = 1 :=
  List.count_eq_one_of_mem ((filter_subjects_sublist s p).nodup s.subjects_nodup)
    (List.mem_map_of_mem (List.mem_filter.mpr ⟨he, hp⟩))

/-- Elements of one subject are one element. -/
theorem eq_of_subject {a : Element} (ha : a ∈ s.allElements) (he : e ∈ s.allElements)
    (same : a.subject = e.subject) : a = e :=
  List.inj_on_of_nodup_map s.subjects_nodup ha he same

theorem count_subject_of_fail (he : e ∈ s.allElements) (hp : p e = false) :
    ((s.allElements.filter p).map Element.subject).count e.subject = 0 := by
  refine List.count_eq_zero.mpr fun there => ?_
  obtain ⟨a, ha, same⟩ := List.mem_map.mp there
  obtain ⟨mem, pass⟩ := List.mem_filter.mp ha
  rw [eq_of_subject mem he same, hp] at pass
  cases pass

end Filters

/-- **The plan divides the elements.** -/
theorem divides_plan (s : Site) :
    s.Divides ((s.allElements.filter s.hasPage).map s.elementDocument)
      ((s.allElements.filter fun e => !s.hasPage e).map fun e => ⟨e.kind, e.name⟩) := by
  have documents : ((s.allElements.filter s.hasPage).map s.elementDocument).map Document.subject =
      (s.allElements.filter s.hasPage).map Element.subject := by
    rw [List.map_map]
    rfl
  have skipped : ((s.allElements.filter fun e => !s.hasPage e).map
      fun e => (⟨e.kind, e.name⟩ : Skipped)).map Skipped.subject =
      (s.allElements.filter fun e => !s.hasPage e).map Element.subject := by
    rw [List.map_map]
    rfl
  constructor
  · rw [documents, elementSubjects_eq]
    exact filter_subjects_sublist s _
  · rw [skipped, elementSubjects_eq]
    exact filter_subjects_sublist s _
  · intro k e he hp
    rw [documents, skipped, subject_of_mem he]
    have mem := mem_allElements he
    exact ⟨count_subject_of_pass mem hp, count_subject_of_fail mem (by rw [hp]; rfl)⟩
  · intro k e he hp
    rw [documents, skipped, subject_of_mem he]
    have mem := mem_allElements he
    exact ⟨count_subject_of_fail mem hp, count_subject_of_pass mem (by rw [hp]; rfl)⟩

/-! ## 2. Names of induced definitions -/

theorem name_congr_element {a : Element} (kind : a.kind = e.kind) (name : a.name = e.name)
    (uri : a.declaredUri = e.declaredUri) (origin : a.fromSchema = e.fromSchema) :
    s.name a = s.name e := by
  refine name_eq_of kind name uri ?_
  unfold View.owner View.schemaOf?
  rw [origin]

/-- A parent gives a slot neither a URI nor a schema. -/
theorem origin_foldl_inheritFrom (parents : List Slot) (t : Slot) :
    (parents.foldl Slot.inheritFrom t).uri = t.uri ∧
      (parents.foldl Slot.inheritFrom t).fromSchema = t.fromSchema :=
  ⟨View.foldl_kept Slot.inheritFrom Slot.uri (fun _ _ => rfl) parents t,
    View.foldl_kept Slot.inheritFrom Slot.fromSchema (fun _ _ => rfl) parents t⟩

/-- **A slot apart from any class is called as it is declared.** -/
theorem name_inducedSlot {t i : Slot} (ht : t ∈ s.view.merged.slots)
    (h : s.view.inducedSlot t.name none = some i) : s.name (.slot i) = s.name (.slot t) := by
  have same := (View.slot_of_inducedSlot h).1
  unfold View.inducedSlot at h
  obtain ⟨base, found, made⟩ := Option.bind_eq_some_iff.mp h
  have declared : base = t := by
    rw [View.baseSlot?, View.slot?_of_mem ht] at found
    exact (Option.some.inj found).symm
  subst declared
  obtain ⟨uri, origin⟩ := origin_foldl_inheritFrom
    ((s.view.slotAncestors base.name true false).filterMap s.view.slot?) base
  cases made
  exact name_congr_element rfl same uri origin

theorem name_foldl_fillFrom (types : List DataType) (t : DataType) :
    (types.foldl DataType.fillFrom t).name = t.name :=
  View.foldl_kept DataType.fillFrom DataType.name (fun _ _ => rfl) types t

theorem rawName_inducedType (s : Site) (t : DataType) :
    ((s.view.inducedType t.name).getD t).name = t.name := by
  unfold View.inducedType
  cases found : s.view.type? t.name with
  | none => rfl
  | some u =>
      have named : u.name = t.name := by simpa using List.find?_some found
      rw [Option.map_some, Option.getD_some, name_foldl_fillFrom, named]

/-- **A type may take a URI from another and is called as it is declared**: URIs do not name types. -/
theorem name_inducedType (s : Site) (t : DataType) :
    s.name (.type ((s.view.inducedType t.name).getD t)) = s.name (.type t) := by
  have canonical : ∀ x : DataType, s.name (.type x) = Text.joinedWords x.name := fun _ => rfl
  rw [canonical, canonical, rawName_inducedType]

/-! ## 3. Pages of elements -/

/-- **The page of a document is that of an element**: it has the element's kind and name, and the
    name on it is the one that the path is made of. -/
structure Pictures (s : Site) (d : Document) (e : Element) (p : Page) (h : ElementHeader) : Prop where
  header : p.header? = some h
  kind : h.kind = e.kind
  rawName : h.rawName = e.name
  name : h.name = s.name e
  path : d.path = Path.join (if s.config.foldersByKind then e.kind.folder else "")
    (h.name ++ "." ++ s.config.format.suffix)

theorem pictures_of_header {p : Page} {h : ElementHeader} (header : p.header? = some h)
    (kind : h.kind = e.kind) (rawName : h.rawName = e.name) (name : h.name = s.name e) :
    s.Pictures (s.elementDocument e) e p h where
  header := header
  kind := kind
  rawName := rawName
  name := name
  path := by
    rw [name]
    rfl

/-- The page of a document shows its element; only the examples of a class may keep it from being
    built. -/
def ShowsElement (s : Site) (fs : FileSystem) (d : Document) (e : Element) : Prop :=
  (∃ p h, s.page? fs d.subject = .ok (some p) ∧ s.Pictures d e p h) ∨
    e.kind = .cls ∧ ∃ cause, s.examples fs e.name = .error cause ∧
      s.page? fs d.subject = .error cause

theorem page_of_mem (fs : FileSystem) (he : e ∈ s.view.all k true) :
    s.page? fs (s.elementDocument e).subject = s.elementPage fs e := by
  have found : s.view.elementOfKind? e.kind e.name = some e := by
    rw [s.view.kind_of_mem he]
    exact View.elementOfKind?_of_mem he
  have subject : (s.elementDocument e).subject = .element e.kind e.name := rfl
  unfold page?
  rw [subject]
  dsimp only
  rw [found]

/-- **The page that is built for the document of an element is the page of this element.** -/
theorem showsElement_elementDocument (fs : FileSystem) (he : e ∈ s.view.all k true) :
    s.ShowsElement fs (s.elementDocument e) e := by
  unfold ShowsElement
  rw [page_of_mem fs he]
  cases e with
  | cls c =>
      have built : s.elementPage fs (.cls c) = (s.examples fs c.name).map fun examples =>
          some (.cls (s.classPage c examples)) := rfl
      rw [built]
      cases found : s.examples fs c.name with
      | error cause => exact Or.inr ⟨rfl, cause, found, rfl⟩
      | ok examples =>
          exact Or.inl ⟨.cls (s.classPage c examples), s.header (.cls c), rfl,
            pictures_of_header rfl rfl rfl rfl⟩
  | slot t =>
      have mem : t ∈ s.view.merged.slots := by
        cases s.view.kind_of_mem he
        obtain ⟨x, hx, same⟩ := List.mem_map.mp he
        exact Element.slot.inj same ▸ hx
      obtain ⟨i, induced, same, _⟩ := View.exists_inducedSlot mem none
      refine Or.inl ⟨.slot (s.slotPage i), s.header (.slot i), ?_,
        pictures_of_header rfl rfl same (name_inducedSlot mem induced)⟩
      show Except.ok ((s.view.inducedSlot t.name none).map fun i => Page.slot (s.slotPage i)) = _
      rw [induced]
      rfl
  | enum t =>
      exact Or.inl ⟨.enum (s.enumPage t), s.header (.enum t), rfl,
        pictures_of_header rfl rfl rfl rfl⟩
  | type t =>
      exact Or.inl ⟨.type (s.typePage ((s.view.inducedType t.name).getD t)),
        s.header (.type ((s.view.inducedType t.name).getD t)), rfl,
        pictures_of_header rfl rfl (rawName_inducedType s t) (name_inducedType s t)⟩
  | subset t =>
      exact Or.inl ⟨.subset (s.subsetPage t), s.header (.subset t), rfl,
        pictures_of_header rfl rfl rfl rfl⟩

/-- **The plan as a whole.** The index comes first, then a document for each schema, then documents
    of elements. These and the skipped entries divide the elements, and the page that is built for a
    document of an element is the page of this element, called as its file is. -/
theorem plan_partitions (s : Site) (hf : s.config.format.isSingleFile = false) :
    ∃ schemas elements, s.plan.documents = s.indexDocument :: (schemas ++ elements) ∧
      schemas.map Document.subject = s.view.schemas.map (fun t => .schema t.name) ∧
      s.Divides elements s.plan.skipped ∧
      ∀ d ∈ elements, ∃ k, ∃ e ∈ s.view.all k true, d.subject = .element k e.name ∧
        ∀ fs, s.ShowsElement fs d e := by
  have skipped : s.plan.skipped =
      (s.allElements.filter fun e => !s.hasPage e).map fun e => ⟨e.kind, e.name⟩ := by
    unfold plan
    rw [if_neg (by rw [hf]; exact Bool.false_ne_true)]
  refine ⟨s.view.importsClosure.map s.schemaDocument,
    (s.allElements.filter s.hasPage).map s.elementDocument, documents_eq hf, ?_, ?_, ?_⟩
  · unfold View.importsClosure
    rw [List.map_map, List.map_map]
    rfl
  · rw [skipped]
    exact divides_plan s
  · intro d hd
    obtain ⟨e, he, rfl⟩ := List.mem_map.mp hd
    obtain ⟨k, _, mem⟩ := List.mem_flatMap.mp (List.mem_filter.mp he).1
    exact ⟨k, e, mem, (subject_of_mem mem).symm, fun fs => showsElement_elementDocument fs mem⟩

/-- A slot that takes its range from another and is named by its URI. -/
def ageSlot : Slot := { name := "age", isA := some "measure", uri := some "p:years" }

/-- A site of both slots and a type that is documented elsewhere, with folders. -/
def yearsSite : Site where
  view := View.ofSchemas
    { id := "p", name := "p", slots := [{ name := "measure", range := some "int" }, ageSlot],
      types := [{ name := "int", fromSchema := some basicTypesId }] } []
  config := { slotUris := true, foldersByKind := true }

theorem plan_partitions_years :
    yearsSite.config.format.isSingleFile = false ∧
      ∃ schemas elements, yearsSite.plan.documents = yearsSite.indexDocument :: (schemas ++ elements) ∧
        yearsSite.Divides elements yearsSite.plan.skipped ∧
        yearsSite.plan.skipped = [⟨.type, "int"⟩] ∧
        ∃ d ∈ elements, d.path = "slots/years.md" ∧
          ∃ k, ∃ e ∈ yearsSite.view.all k true, d.subject = .element k e.name ∧
            yearsSite.ShowsElement {} d e := by
  obtain ⟨schemas, elements, documents, _, divides, shows⟩ := plan_partitions yearsSite rfl
  have slot : Element.slot { ageSlot with domainOf := [] } ∈ yearsSite.view.all .slot true :=
    .tail _ (.head _)
  have once := (divides.of_hasPage .slot _ slot rfl).1
  obtain ⟨d, hd, about⟩ :=
    List.mem_map.mp (List.count_pos_iff.mp (Nat.lt_of_lt_of_eq Nat.zero_lt_one once.symm))
  have named : ∀ d ∈ yearsSite.plan.documents, d.subject = .element .slot "age" →
      d.path = "slots/years.md" := by
    decide +kernel
  have planned : d ∈ yearsSite.plan.documents := by
    rw [documents]
    exact List.mem_cons_of_mem _ (List.mem_append_right _ hd)
  obtain ⟨k, e, mem, subject, shown⟩ := shows d hd
  exact ⟨rfl, schemas, elements, documents, divides, by decide +kernel, d, hd,
    named d planned about, k, e, mem, subject, shown {}⟩

/-! ## 4. Pages of schemas -/

/-- The documents of schemas, in the order of the plan. -/
def schemaDocuments (s : Site) : List Document :=
  s.plan.documents.filter fun d => d.template = .schema

/-- The page that is built for the document is the page of the schema. -/
def Renders (s : Site) (d : Document) (t : Schema) : Prop :=
  ∀ fs, s.page? fs d.subject = .ok (some (.schema (s.schemaPage t)))

/-- **Every schema has its own page**: the document in its place shows it, and no other document of a
    schema does. -/
def OwnPages (s : Site) : Prop :=
  ∀ (i : Nat) (t : Schema), s.view.schemas[i]? = some t →
    ∃ d, s.schemaDocuments[i]? = some d ∧ s.Renders d t ∧
      ∀ (j : Nat) (d' : Document), s.schemaDocuments[j]? = some d' → s.Renders d' t → j = i

/-- The last of some schemas that has a name. -/
def LastNamed (schemas : List Schema) (name : String) (t : Schema) : Prop :=
  ∃ front back, schemas = front ++ t :: back ∧ t.name = name ∧ ∀ u ∈ back, u.name ≠ name

theorem lastNamed_of_schema? {n : String} {t : Schema} (h : s.view.schema? n = some t) :
    LastNamed s.view.schemas n t := by
  obtain ⟨named, back, front, split, fresh⟩ := List.find?_eq_some_iff_append.mp h
  refine ⟨front.reverse, back.reverse, ?_, by simpa using named, fun u hu => ?_⟩
  · rw [← List.reverse_reverse s.view.schemas, split]
    simp
  · simpa using fresh u (List.mem_reverse.mp hu)

theorem exists_schema?_of_mem {t : Schema} (h : t ∈ s.view.schemas) :
    ∃ u, s.view.schema? t.name = some u := by
  refine Option.isSome_iff_exists.mp (List.find?_isSome.mpr ⟨t, List.mem_reverse.mpr h, ?_⟩)
  simp

theorem schema?_of_nodup (h : s.view.importsClosure.Nodup) {t : Schema} (ht : t ∈ s.view.schemas) :
    s.view.schema? t.name = some t := by
  refine find?_name_of_mem ?_ (List.mem_reverse.mpr ht)
  rw [List.map_reverse, List.nodup_reverse]
  exact h

section Schemas

variable (hf : s.config.format.isSingleFile = false)
include hf

theorem schemaDocuments_eq : s.schemaDocuments = s.view.importsClosure.map s.schemaDocument := by
  have others : ∀ e : Element, (s.elementDocument e).template ≠ .schema := by
    intro e
    cases e <;> exact TemplateKind.noConfusion
  unfold schemaDocuments
  rw [documents_eq hf, List.cons_append, List.filter_cons_of_neg (by simp [indexDocument]),
    List.filter_append, List.filter_eq_self.mpr, List.filter_eq_nil_iff.mpr, List.append_nil]
  · intro d hd
    obtain ⟨e, _, rfl⟩ := List.mem_map.mp hd
    simpa using others e
  · intro d hd
    obtain ⟨n, _, rfl⟩ := List.mem_map.mp hd
    simp [schemaDocument]

theorem schemaDocuments_getElem? (i : Nat) : s.schemaDocuments[i]? =
    s.view.schemas[i]?.map fun t => s.schemaDocument t.name := by
  rw [schemaDocuments_eq hf]
  unfold View.importsClosure
  rw [List.map_map, List.getElem?_map]
  rfl

/-- **A document of a schema shows the last schema of its name.** -/
theorem renders_last {i : Nat} {t : Schema} (ht : s.view.schemas[i]? = some t) :
    ∃ d u, s.schemaDocuments[i]? = some d ∧ s.Renders d u ∧ LastNamed s.view.schemas t.name u := by
  obtain ⟨u, found⟩ := exists_schema?_of_mem (List.mem_of_getElem? ht)
  refine ⟨s.schemaDocument t.name, u, ?_, fun fs => ?_, lastNamed_of_schema? found⟩
  · rw [schemaDocuments_getElem? hf, ht]
    rfl
  · show Except.ok ((s.view.schema? t.name).map fun t => Page.schema (s.schemaPage t)) = _
    rw [found]
    rfl

/-- Schemas of one name have one document, so neither has it to itself. -/
theorem nodup_of_ownPages (own : s.OwnPages) : s.view.importsClosure.Nodup := by
  rw [View.importsClosure, List.nodup_iff_getElem?_ne_getElem?]
  intro i j lt bound same
  rw [List.getElem?_map, List.getElem?_map] at same
  have long : j < s.view.schemas.length := by simpa using bound
  obtain ⟨a, ha⟩ : ∃ a, s.view.schemas[i]? = some a := ⟨_, List.getElem?_eq_getElem (by omega)⟩
  obtain ⟨b, hb⟩ : ∃ b, s.view.schemas[j]? = some b := ⟨_, List.getElem?_eq_getElem long⟩
  rw [ha, hb] at same
  have named : a.name = b.name := Option.some.inj same
  obtain ⟨d, planned, shows, only⟩ := own i a ha
  have again : s.schemaDocuments[j]? = some d := by
    rw [schemaDocuments_getElem? hf, hb, Option.map_some, ← named]
    rw [schemaDocuments_getElem? hf, ha] at planned
    exact planned
  have := only j d again shows
  omega

/-- A page tells the name of its schema, so only the document in its place shows a schema. -/
theorem ownPages_of_nodup (h : s.view.importsClosure.Nodup) : s.OwnPages := by
  have shown : ∀ t ∈ s.view.schemas, s.Renders (s.schemaDocument t.name) t := by
    intro t ht fs
    show Except.ok ((s.view.schema? t.name).map fun t => Page.schema (s.schemaPage t)) = _
    rw [schema?_of_nodup h ht]
    rfl
  intro i t ht
  refine ⟨s.schemaDocument t.name, ?_, shown t (List.mem_of_getElem? ht), fun j d' hd shows => ?_⟩
  · rw [schemaDocuments_getElem? hf, ht]
    rfl
  · rw [schemaDocuments_getElem? hf] at hd
    obtain ⟨u, hu, rfl⟩ := Option.map_eq_some_iff.mp hd
    have pages : s.schemaPage u = s.schemaPage t := by
      have both := (shown u (List.mem_of_getElem? hu) {}).symm.trans (shows {})
      exact Page.schema.inj (Option.some.inj (Except.ok.inj both))
    have named : u.name = t.name := congrArg (fun p => p.header.name) pages
    have bound : j < s.view.importsClosure.length := by
      rw [View.importsClosure, List.length_map]
      exact (List.getElem?_eq_some_iff.mp hu).1
    refine (List.getElem?_inj bound h).mp ?_
    rw [View.importsClosure, List.getElem?_map, List.getElem?_map, hu, ht, Option.map_some,
      Option.map_some, named]

/-- **Every schema has its own page exactly where no two schemas have one name.** In any case the
    document in the place of a schema shows the last schema of its name. -/
theorem ownPages_iff :
    (s.OwnPages ↔ s.view.importsClosure.Nodup) ∧
      ∀ (i : Nat) (t : Schema), s.view.schemas[i]? = some t →
        ∃ d u, s.schemaDocuments[i]? = some d ∧ s.Renders d u ∧
          LastNamed s.view.schemas t.name u :=
  ⟨⟨nodup_of_ownPages hf, ownPages_of_nodup hf⟩, fun _ _ ht => renders_last hf ht⟩

end Schemas

/-- A schema with one class. -/
def oneClass (name : String) : Schema :=
  { id := "https://example.org/imported", name := name, classes := [{ name := "A" }] }

/-- A site whose root imports a schema of a name. -/
def importing (name : String) : Site where
  view := View.ofSchemas { id := "https://example.org/root", name := "types" } [oneClass name]
  config := {}

theorem ownPages_iff_importing :
    (importing "units").config.format.isSingleFile = false ∧ (importing "units").OwnPages ∧
      (importing "types").config.format.isSingleFile = false ∧
      ∃ d u, (importing "types").schemaDocuments[0]? = some d ∧ (importing "types").Renders d u ∧
        LastNamed (importing "types").view.schemas "types" u :=
  ⟨rfl, (ownPages_iff rfl).1.mpr (by decide +kernel), rfl,
    (ownPages_iff rfl).2 0 (oneClass "types") rfl⟩

/-- A root and an import of one name share a page. -/
theorem ownPages_shared : ¬ (importing "types").OwnPages := fun own =>
  absurd (nodup_of_ownPages rfl own) (by decide +kernel)

/-! ## 5. Pages of planned documents -/

section Planned

variable {fs : FileSystem} {d : Document}

/-- The page of an element is made for the template of its kind. -/
theorem template_of_elementPage {p : Page} (h : s.elementPage fs e = .ok (some p)) :
    p.template = e.kind.template := by
  cases e with
  | cls c =>
      simp only [elementPage] at h
      cases hx : s.examples fs c.name with
      | error cause => rw [hx] at h; cases h
      | ok examples => rw [hx] at h; cases h; rfl
  | slot t =>
      obtain ⟨i, _, rfl⟩ := Option.map_eq_some_iff.mp (Except.ok.inj h)
      rfl
  | enum t => cases h; rfl
  | type t => cases h; rfl
  | subset t => cases h; rfl

/-- **Every document of the plan has a page of its template**, unless the examples of a class keep it
    from being built. -/
theorem page_of_planned (fs : FileSystem) (hd : d ∈ s.plan.documents) :
    (∃ p, s.page? fs d.subject = .ok (some p) ∧ p.template = d.template) ∨
      ∃ cls cause, s.examples fs cls = .error cause ∧ s.page? fs d.subject = .error cause := by
  have index : ∃ p, s.page? fs s.indexDocument.subject = .ok (some p) ∧
      p.template = s.indexDocument.template := ⟨.index s.indexPage, rfl, rfl⟩
  cases hf : s.config.format.isSingleFile with
  | true =>
      have only : s.plan.documents = [s.indexDocument] := by
        unfold plan
        rw [if_pos hf]
      rw [only, List.mem_singleton] at hd
      exact Or.inl (hd ▸ index)
  | false =>
      rw [documents_eq hf, List.cons_append, List.mem_cons, List.mem_append] at hd
      rcases hd with rfl | hd | hd
      · exact Or.inl index
      · obtain ⟨name, mem, rfl⟩ := List.mem_map.mp hd
        obtain ⟨t, ht, rfl⟩ := List.mem_map.mp mem
        obtain ⟨u, found⟩ := exists_schema?_of_mem ht
        refine Or.inl ⟨.schema (s.schemaPage u), ?_, rfl⟩
        show Except.ok ((s.view.schema? t.name).map fun t => Page.schema (s.schemaPage t)) = _
        rw [found]
        rfl
      · obtain ⟨e, mem, rfl⟩ := List.mem_map.mp hd
        obtain ⟨k, _, he⟩ := List.mem_flatMap.mp (List.mem_filter.mp mem).1
        rcases showsElement_elementDocument fs he with ⟨p, _, built, _⟩ | ⟨_, cause, failed, same⟩
        · have made := built
          rw [page_of_mem fs he] at made
          exact Or.inl ⟨p, built, template_of_elementPage made⟩
        · exact Or.inr ⟨e.name, cause, failed, same⟩

/-- The page that is built for a document of the plan is made for the template of the document. -/
theorem template_of_planned {page : Option Page} (hd : d ∈ s.plan.documents)
    (built : s.page? fs d.subject = .ok page) : ∃ p, page = some p ∧ p.template = d.template := by
  rcases page_of_planned fs hd with ⟨p, made, template⟩ | ⟨_, _, _, failed⟩
  · cases built.symm.trans made
    exact ⟨p, rfl, template⟩
  · cases built.symm.trans failed

end Planned

end Site

end SchemaPages
