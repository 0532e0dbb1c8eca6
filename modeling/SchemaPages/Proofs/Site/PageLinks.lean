import SchemaPages.Proofs.Site.Links
import SchemaPages.Proofs.View.Chains
import SchemaPages.Site.Generation
/-!
# Links of pages

Almost all links of a page lead to elements of the view, which it finds by name or lists by kind.
The exceptions are the definitions that the page of a schema lists, and the slots as classes have
them: a class may give a slot another URI, and a schema may define what another schema shadows.

* `Page.links`: the links that a page holds;
* `Site.Shows`: what a page shows besides elements of the view;
* `accounted_of_page`: no link of a page leads anywhere else;
* `link_mem_of_shows`: what a page shows is linked there.
-/

namespace SchemaPages

/-! ## 1. Links that pages hold -/

/-- Whether a link leads to a page of the site. -/
def Link.isPage : Link → Bool
  | .page _ _ => true
  | _ => false

def OutlineLabel.links : OutlineLabel → List Link
  | .link l => [l]
  | _ => []

def Outline.links (o : Outline) : List Link := o.flatMap fun line => line.label.links ++ line.mixins

def ElementHeader.links (h : ElementHeader) : List Link := h.uriLink :: h.inSubset

def SlotRow.links (r : SlotRow) : List Link := r.link :: r.range :: r.inheritedFrom

def UsageRow.links (r : UsageRow) : List Link := [r.usedBy, r.usedIn]

def MixinSlots.links (m : MixinSlots) : List Link := m.mixin :: m.slots

/-- The links of listings. -/
def ElementRow.links (rows : List ElementRow) : List Link := rows.map ElementRow.link

/-- **All links that a page holds.** The text of a diagram is no link. -/
def Page.links : Page → List Link
  | .index p => ElementRow.links (p.classes ++ p.slots ++ p.enums ++ p.types ++ p.subsets)
  | .schema p => ElementRow.links (p.classes ++ p.slots ++ p.enums ++ p.types)
  | .cls p =>
    p.header.links ++ p.outline.links ++ p.slots.flatMap SlotRow.links
      ++ p.mixinSlots.flatMap MixinSlots.links ++ p.usages.flatMap UsageRow.links ++ p.seeAlso
  | .slot p =>
    p.header.links ++ p.outline.links ++ p.range :: p.domain.toList
      ++ p.applicableClasses.map ApplicableClass.link
  | .enum p =>
    p.header.links ++ p.permissibleValues.filterMap PermissibleValueRow.meaning
      ++ p.usages.flatMap UsageRow.links
  | .type p => p.header.links ++ p.typeOf.toList
  | .subset p => p.header.links ++ ElementRow.links (p.classes ++ p.slots ++ p.enums ++ p.types)

/-! ## 2. What pages show -/

/-- The definitions that the page of a schema lists. -/
def Schema.listed (t : Schema) : List Element :=
  t.classes.map .cls ++ t.slots.map .slot ++ t.enums.map .enum ++ t.types.map .type

namespace Site

/-- **What a page shows besides elements of the view**: what a schema defines, the slots of a class
    as it has them, and those slots of classes whose range the page is about. -/
inductive Shows (s : Site) : Subject → Element → Prop where
  | definition {name : String} {t : Schema} {e : Element} (found : s.view.schema? name = some t)
      (mem : e ∈ t.listed) : Shows s (.schema name) e
  | slot {name : String} {slot : Slot} (mem : slot ∈ s.view.classInducedSlots name) :
      Shows s (.element .cls name) (.slot slot)
  | usage {kind : Kind} {c : Class} {slot : Slot} (hk : kind = .cls ∨ kind = .enum)
      (hc : c ∈ s.view.merged.classes) (mem : slot ∈ s.declaredSlots c) :
      Shows s (.element kind (s.rangeOf slot)) (.slot slot)

/-- A link that leads to a page leads to that of an element of the view, or of one that the page
    of the subject shows. -/
def Accounted (s : Site) (subject : Subject) (fromIndex : Bool) (l : Link) : Prop :=
  l.isPage = true → ∃ e, l = s.link e fromIndex ∧ (e ∈ s.allElements ∨ s.Shows subject e)

section Accounting

variable {s : Site} {subject : Subject} {i : Bool} {e : Element} {l : Link}

theorem mem_sortElements {elements : List Element} : e ∈ s.sortElements elements ↔ e ∈ elements := by
  unfold sortElements
  cases s.config.sortBy <;> exact mem_sortBy

theorem accounted_of_not_page (h : l.isPage = false) : s.Accounted subject i l := by
  intro hp
  rw [h] at hp
  cases hp

theorem accounted_link (h : e ∈ s.allElements) : s.Accounted subject i (s.link e i) :=
  fun _ => ⟨e, rfl, Or.inl h⟩

theorem accounted_shown (h : s.Shows subject e) : s.Accounted subject i (s.link e i) :=
  fun _ => ⟨e, rfl, Or.inr h⟩

/-- **What a name stands for is an element of the view.** -/
theorem accounted_linkTo (n : String) : s.Accounted subject i (s.linkTo n i) := by
  unfold linkTo
  cases h : s.view.element? n with
  | none => exact accounted_of_not_page rfl
  | some e => exact accounted_link (mem_allElements (View.mem_of_element? h).1)

theorem accounted_links {names : List String} (h : l ∈ s.links names) :
    s.Accounted subject false l := by
  obtain ⟨n, _, rfl⟩ := List.mem_map.mp h
  exact accounted_linkTo n

theorem accounted_curieLinks {curies : List String} (h : l ∈ curies.map s.curieLink) :
    s.Accounted subject i l := by
  obtain ⟨c, _, rfl⟩ := List.mem_map.mp h
  exact accounted_of_not_page rfl

theorem mem_links_elementRows {elements : List Element} :
    l ∈ ElementRow.links (s.elementRows i elements) ↔ ∃ e ∈ elements, l = s.link e i := by
  unfold ElementRow.links elementRows
  rw [List.map_map, List.mem_map]
  constructor
  · rintro ⟨e, he, rfl⟩
    exact ⟨e, mem_sortElements.mp he, rfl⟩
  · rintro ⟨e, he, rfl⟩
    exact ⟨e, mem_sortElements.mpr he, rfl⟩

theorem accounted_rows {elements : List Element} (h : ∀ e ∈ elements, e ∈ s.allElements)
    (hl : l ∈ ElementRow.links (s.elementRows i elements)) : s.Accounted subject i l := by
  obtain ⟨e, he, rfl⟩ := mem_links_elementRows.mp hl
  exact accounted_link (h e he)

theorem accounted_members {subset : String} {k : Kind}
    (hl : l ∈ ElementRow.links (s.members subset k)) : s.Accounted subject false l :=
  accounted_rows (fun _ he => mem_allElements (List.mem_filter.mp he).1) hl

theorem accounted_indexRows {k : Kind} (hl : l ∈ ElementRow.links (s.indexRows k)) :
    s.Accounted subject true l :=
  accounted_rows (fun _ he => mem_allElements (s.view.mem_all_of_mem he)) hl

theorem mem_allElements_of_class {c : Class} (h : c ∈ s.view.merged.classes) :
    Element.cls c ∈ s.allElements :=
  mem_allElements (k := .cls) (List.mem_map_of_mem h)

theorem accounted_treeRows (hl : l ∈ ElementRow.links s.treeRows) : s.Accounted subject true l := by
  unfold ElementRow.links treeRows at hl
  obtain ⟨row, hr, rfl⟩ := List.mem_map.mp hl
  obtain ⟨⟨depth, name⟩, _, hn⟩ := List.mem_filterMap.mp hr
  dsimp only at hn
  obtain ⟨c, hc, rfl⟩ := Option.map_eq_some_iff.mp hn
  exact accounted_link (mem_allElements_of_class (List.mem_of_find?_eq_some hc))

theorem accounted_header (hl : l ∈ (s.header e).links) : s.Accounted subject false l := by
  rcases List.mem_cons.mp hl with rfl | hl
  · exact accounted_of_not_page rfl
  · exact accounted_links hl

end Accounting

/-! ## 3. Outlines -/

/-- What stands above an element is a way up that ends. -/
theorem climbs_above (v : View) (e : Element) :
    Walk.Climbs (v.elementOfKind? e.kind) Element.isA [e.name] e.isA (chainUpwards v e).tail :=
  Walk.climbs_chain
    (fun _ _ found => (View.mem_of_elementOfKind? found).2 ▸
      List.mem_map_of_mem (View.mem_of_elementOfKind? found).1) _ _

theorem mem_numbered {nodes : List (String × Option Element)} {depth : Nat} {n : ChainNode}
    (h : n ∈ numbered depth nodes) : (n.name, n.element) ∈ nodes := by
  induction nodes generalizing depth with
  | nil => exact absurd h List.not_mem_nil
  | cons node rest ih =>
      rcases List.mem_cons.mp h with rfl | h
      · exact List.mem_cons_self
      · exact List.mem_cons_of_mem _ (ih h)

section Outlines

variable {s : Site} {subject : Subject} {e : Element} {l : Link}

/-- **Above and below the focus of an outline stand elements of the view.** -/
theorem element_of_node {n : ChainNode} {a : Element}
    (h : n ∈ s.chain e ++ s.childNodes e (s.chain e).length) (hf : n.name ≠ e.name)
    (ha : n.element = some a) : a ∈ s.allElements := by
  have found : s.view.elementOfKind? e.kind n.name = some a := by
    rcases List.mem_append.mp h with h | h
    · have pair := List.mem_reverse.mp (mem_numbered h)
      rw [ha] at pair
      rcases List.mem_cons.mp pair with same | above
      · exact absurd (congrArg Prod.fst same) hf
      · exact Walk.find_of_climbs (climbs_above s.view e) _ above
    · obtain ⟨m, _, rfl⟩ := List.mem_map.mp h
      exact ha
  exact mem_allElements (View.mem_of_elementOfKind? found).1

theorem accounted_outline (hl : l ∈ (s.outline e true true).links) :
    s.Accounted subject false l := by
  obtain ⟨line, hline, hl⟩ := List.mem_flatMap.mp hl
  obtain ⟨n, hn, rfl⟩ := List.mem_map.mp hline
  rw [if_pos rfl] at hn
  unfold outlineLine at hl
  split at hl
  · exact absurd hl List.not_mem_nil
  · rename_i a ha
    rcases List.mem_append.mp hl with hl | hl
    · split at hl
      · exact absurd hl List.not_mem_nil
      · rename_i other
        cases List.mem_singleton.mp hl
        exact accounted_link (element_of_node hn other ha)
    · exact accounted_links hl

/-! ## 4. Rows of slots -/

theorem accounted_slotRow {cls : String} {slot : Slot} (h : s.Shows subject (.slot slot))
    (hl : l ∈ (s.slotRow cls slot).links) : s.Accounted subject false l := by
  rcases List.mem_cons.mp hl with rfl | hl
  · exact accounted_shown h
  · rcases List.mem_cons.mp hl with rfl | hl
    · exact accounted_linkTo _
    · exact accounted_links hl

theorem mem_usages {r : UsageRow} {range : String} : r ∈ s.usages range ↔
    ∃ c ∈ s.view.merged.classes, ∃ slot ∈ s.declaredSlots c, s.rangeOf slot = range ∧
      r = ⟨s.link (.cls c) false, s.link (.slot slot) false⟩ := by
  unfold usages
  simp only [List.mem_flatMap, List.mem_map, List.mem_filter, beq_iff_eq]
  constructor
  · rintro ⟨c, hc, slot, ⟨hs, hr⟩, rfl⟩
    exact ⟨c, hc, slot, hs, hr, rfl⟩
  · rintro ⟨c, hc, slot, hs, hr, rfl⟩
    exact ⟨c, hc, slot, ⟨hs, hr⟩, rfl⟩

theorem accounted_usages {kind : Kind} {range : String} (hk : kind = .cls ∨ kind = .enum)
    (hl : l ∈ (s.usages range).flatMap UsageRow.links) :
    s.Accounted (.element kind range) false l := by
  obtain ⟨r, hr, hl⟩ := List.mem_flatMap.mp hl
  obtain ⟨c, hc, slot, hs, rfl, rfl⟩ := mem_usages.mp hr
  rcases List.mem_cons.mp hl with rfl | hl
  · exact accounted_link (mem_allElements_of_class hc)
  · cases List.mem_singleton.mp hl
    exact accounted_shown (.usage hk hc hs)

theorem accounted_mixinSlots {c : Class}
    (hl : l ∈ (s.mixinSlots c).flatMap MixinSlots.links) : s.Accounted subject false l := by
  obtain ⟨m, hm, hl⟩ := List.mem_flatMap.mp hl
  obtain ⟨n, _, rfl⟩ := List.mem_map.mp hm
  rcases List.mem_cons.mp hl with rfl | hl
  · exact accounted_linkTo n
  · exact accounted_links hl

theorem accounted_applicable {slot : Slot}
    (hl : l ∈ (s.applicableClasses slot).map ApplicableClass.link) :
    s.Accounted subject false l := by
  obtain ⟨r, hr, rfl⟩ := List.mem_map.mp hl
  obtain ⟨c, hc, rfl⟩ := List.mem_map.mp hr
  exact accounted_link (mem_allElements_of_class (List.mem_filter.mp hc).1)

theorem accounted_linkTo? {name : Option String}
    (hl : l ∈ (name.map fun n => s.linkTo n false).toList) : s.Accounted subject false l := by
  cases name with
  | none => exact absurd hl List.not_mem_nil
  | some n =>
      cases List.mem_singleton.mp hl
      exact accounted_linkTo n

end Outlines

/-! ## 5. Pages -/

section Pages

variable {s : Site} {subject : Subject} {l : Link} {fs : FileSystem}

theorem mem_links_append {rows rows' : List ElementRow} :
    l ∈ ElementRow.links (rows ++ rows') ↔ l ∈ ElementRow.links rows ∨ l ∈ ElementRow.links rows' := by
  unfold ElementRow.links
  rw [List.map_append, List.mem_append]

theorem accounted_indexPage (hl : l ∈ (Page.index s.indexPage).links) : s.Accounted subject true l := by
  simp only [Page.links, mem_links_append] at hl
  rcases hl with (((hl | hl) | hl) | hl) | hl
  · unfold indexPage at hl
    dsimp only at hl
    split at hl
    · exact accounted_treeRows hl
    · exact accounted_indexRows hl
  · exact accounted_indexRows hl
  · exact accounted_indexRows hl
  · exact accounted_indexRows hl
  · exact accounted_indexRows hl

/-- **The page of a schema links to what the schema defines.** -/
theorem mem_links_schemaPage {t : Schema} :
    l ∈ (Page.schema (s.schemaPage t)).links ↔ ∃ e ∈ t.listed, l = s.link e false := by
  simp only [Page.links, mem_links_append, schemaPage, mem_links_elementRows, Schema.listed,
    List.mem_append, or_and_right, exists_or]

theorem accounted_classPage {c : Class} {examples : List Example}
    (hl : l ∈ (Page.cls (s.classPage c examples)).links) :
    s.Accounted (.element .cls c.name) false l := by
  simp only [Page.links, List.mem_append] at hl
  rcases hl with ((((hl | hl) | hl) | hl) | hl) | hl
  · exact accounted_header hl
  · exact accounted_outline hl
  · obtain ⟨row, hr, hl⟩ := List.mem_flatMap.mp hl
    obtain ⟨slot, hs, rfl⟩ := List.mem_map.mp hr
    exact accounted_slotRow (.slot hs) hl
  · exact accounted_mixinSlots hl
  · exact accounted_usages (Or.inl rfl) hl
  · exact accounted_curieLinks hl

theorem accounted_slotPage {slot : Slot} (hl : l ∈ (Page.slot (s.slotPage slot)).links) :
    s.Accounted subject false l := by
  simp only [Page.links, List.mem_append, List.mem_cons] at hl
  rcases hl with ((hl | hl) | rfl | hl) | hl
  · exact accounted_header hl
  · exact accounted_outline hl
  · exact accounted_linkTo _
  · exact accounted_linkTo? hl
  · exact accounted_applicable hl

theorem accounted_enumPage {t : Enumeration} (hl : l ∈ (Page.enum (s.enumPage t)).links) :
    s.Accounted (.element .enum t.name) false l := by
  simp only [Page.links, List.mem_append] at hl
  rcases hl with (hl | hl) | hl
  · exact accounted_header hl
  · obtain ⟨row, hr, hm⟩ := List.mem_filterMap.mp hl
    obtain ⟨v, _, rfl⟩ := List.mem_map.mp hr
    obtain ⟨curie, _, rfl⟩ := Option.map_eq_some_iff.mp hm
    exact accounted_of_not_page rfl
  · exact accounted_usages (Or.inr rfl) hl

theorem accounted_typePage {t : DataType} (hl : l ∈ (Page.type (s.typePage t)).links) :
    s.Accounted subject false l := by
  simp only [Page.links, List.mem_append] at hl
  rcases hl with hl | hl
  · exact accounted_header hl
  · exact accounted_linkTo? hl

theorem accounted_subsetPage {t : Subset} (hl : l ∈ (Page.subset (s.subsetPage t)).links) :
    s.Accounted subject false l := by
  simp only [Page.links, List.mem_append, mem_links_append] at hl
  rcases hl with hl | ((hl | hl) | hl) | hl
  · exact accounted_header hl
  · exact accounted_members hl
  · exact accounted_members hl
  · exact accounted_members hl
  · exact accounted_members hl

/-- The page of an element is about its kind and name. -/
theorem page_element {kind : Kind} {name : String} {p : Page}
    (h : s.page? fs (.element kind name) = .ok (some p)) :
    ∃ e ∈ s.view.all kind true, e.kind = kind ∧ e.name = name ∧
      s.elementPage fs e = .ok (some p) := by
  unfold page? at h
  dsimp only at h
  split at h
  · rename_i e he
    obtain ⟨mem, rfl⟩ := View.mem_of_elementOfKind? he
    exact ⟨e, mem, s.view.kind_of_mem mem, rfl, h⟩
  · cases h

theorem classPage_of_elementPage {c : Class} {p : Page}
    (h : s.elementPage fs (.cls c) = .ok (some p)) :
    ∃ examples, p = .cls (s.classPage c examples) := by
  unfold elementPage at h
  dsimp only at h
  cases hx : s.examples fs c.name with
  | error e => rw [hx] at h; cases h
  | ok examples =>
      rw [hx] at h
      cases h
      exact ⟨examples, rfl⟩

theorem page_schema {name : String} {p : Page} (h : s.page? fs (.schema name) = .ok (some p)) :
    ∃ t, s.view.schema? name = some t ∧ p = .schema (s.schemaPage t) := by
  obtain ⟨t, ht, rfl⟩ := Option.map_eq_some_iff.mp (Except.ok.inj h)
  exact ⟨t, ht, rfl⟩

/-- **Every link of a page is accounted for.** -/
theorem accounted_of_page {p : Page} (h : s.page? fs subject = .ok (some p)) (hl : l ∈ p.links) :
    s.Accounted subject (subject = .index) l := by
  cases subject with
  | index =>
      cases h
      exact accounted_indexPage hl
  | schema name =>
      obtain ⟨t, ht, rfl⟩ := page_schema h
      obtain ⟨e, he, rfl⟩ := mem_links_schemaPage.mp hl
      exact accounted_shown (.definition ht he)
  | element kind name =>
      obtain ⟨e, _, rfl, rfl, built⟩ := page_element h
      cases e with
      | cls c =>
          obtain ⟨examples, rfl⟩ := classPage_of_elementPage built
          exact accounted_classPage hl
      | slot t =>
          obtain ⟨slot, _, rfl⟩ := Option.map_eq_some_iff.mp (Except.ok.inj built)
          exact accounted_slotPage hl
      | enum t => cases built; exact accounted_enumPage hl
      | type t => cases built; exact accounted_typePage hl
      | subset t => cases built; exact accounted_subsetPage hl

theorem link_mem_usages {c : Class} {slot : Slot} (hc : c ∈ s.view.merged.classes)
    (hs : slot ∈ s.declaredSlots c) :
    s.link (.slot slot) false ∈ (s.usages (s.rangeOf slot)).flatMap UsageRow.links :=
  List.mem_flatMap.mpr ⟨_, mem_usages.mpr ⟨c, hc, slot, hs, rfl, rfl⟩, by simp [UsageRow.links]⟩

/-- **What a page shows is linked there.** -/
theorem link_mem_of_shows {p : Page} {e : Element} (h : s.page? fs subject = .ok (some p))
    (he : s.Shows subject e) : s.link e false ∈ p.links := by
  cases he with
  | definition found mem =>
      obtain ⟨t, ht, rfl⟩ := page_schema h
      rw [found] at ht
      cases ht
      exact mem_links_schemaPage.mpr ⟨e, mem, rfl⟩
  | slot mem =>
      obtain ⟨x, _, hk, rfl, built⟩ := page_element h
      cases x with
      | cls c =>
          obtain ⟨examples, rfl⟩ := classPage_of_elementPage built
          have row : s.link (.slot _) false ∈ ((s.classPage c examples).slots).flatMap SlotRow.links :=
            List.mem_flatMap.mpr ⟨_, List.mem_map.mpr ⟨_, mem, rfl⟩, List.mem_cons_self⟩
          simp only [Page.links, List.mem_append]
          exact Or.inl (Or.inl (Or.inl (Or.inr row)))
      | _ => cases hk
  | usage hk hc mem =>
      obtain ⟨x, _, hx, hn, built⟩ := page_element h
      have row := link_mem_usages hc mem
      rw [← hn] at row
      cases x with
      | cls c =>
          obtain ⟨examples, rfl⟩ := classPage_of_elementPage built
          simp only [Page.links, List.mem_append]
          exact Or.inl (Or.inr row)
      | enum t =>
          cases built
          simp only [Page.links, List.mem_append]
          exact Or.inr row
      | _ => rcases hk with rfl | rfl <;> cases hx

end Pages

end Site

end SchemaPages
