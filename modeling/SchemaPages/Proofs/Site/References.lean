import SchemaPages.Proofs.Site.Subjects
/-!
# References by name

A page links to much that its element only names: a range, mixins, subsets, the type that a type is
made from. Each of these names is meant for elements of some kinds, but it is looked up among the
elements of all kinds, in a fixed order. So an element of another kind may be found first, and then
the link leads there.

* `Reference`, `Site.referencesOf`: the names that a page makes links from, and what they are meant for;
* `Page.namedLinks`, `page_shows`: the links made from them, in the same order;
* `Site.Proper`, `Site.Captures`, `proper_linkTo_iff`: links that lead where the name is meant to;
* `not_captures_class`, `label_of_node`: names of classes, and names above and below an element;
* `namedLinks_proper_iff`: when all links of a page lead where they are meant to.
-/

namespace SchemaPages

/-! ## 1. Names on pages -/

/-- A name, with the kinds of element that it may stand for in its place. -/
structure Reference where
  kinds : List Kind
  name : String
  deriving DecidableEq, Repr

/-- What the range of a slot may be. -/
def Reference.toRange (name : String) : Reference := ⟨[.cls, .enum, .type], name⟩

/-- Names of elements of a kind. -/
def Kind.references (k : Kind) (names : List String) : List Reference := names.map fun n => ⟨[k], n⟩

/-- **The links of a page that are made from names**, apart from those above and below its element. -/
def Page.namedLinks : Page → List Link
  | .index _ => []
  | .schema _ => []
  | .cls p =>
    p.header.inSubset ++ p.outline.flatMap OutlineLine.mixins
      ++ p.slots.flatMap (fun r => r.range :: r.inheritedFrom) ++ p.mixinSlots.flatMap MixinSlots.links
  | .slot p =>
    p.header.inSubset ++ p.outline.flatMap OutlineLine.mixins ++ p.range :: p.domain.toList
  | .enum p => p.header.inSubset
  | .type p => p.header.inSubset ++ p.typeOf.toList
  | .subset p => p.header.inSubset

/-- The outline of a page, if it has one. -/
def Page.outline : Page → Outline
  | .cls p => p.outline
  | .slot p => p.outline
  | _ => []

namespace Site

/-- The names in the outline of an element: those above it, its own, and those of its children. -/
def outlineNodes (s : Site) (e : Element) : List ChainNode :=
  s.chain e ++ s.childNodes e (s.chain e).length

/-- The mixins in the outline of an element, which are of its own kind. -/
def mixinReferences (s : Site) (e : Element) : List Reference :=
  (s.outlineNodes e).flatMap fun n => e.kind.references ((n.element.map Element.mixins).getD [])

/-- The names in the row of a slot of a class: the range, and the classes that it is from. -/
def rowReferences (s : Site) (cls : String) (slot : Slot) : List Reference :=
  .toRange (s.rangeOf slot) :: Kind.cls.references (s.inheritedFrom slot cls)

/-- The names in the section of a mixin: its own, and those of its slots. -/
def sectionReferences (s : Site) (mixin : String) : List Reference :=
  ⟨[.cls], mixin⟩ :: Kind.slot.references (s.view.classSlots mixin)

/-- **The names that the page of an element makes links from.** -/
def references (s : Site) (e : Element) : List Reference :=
  Kind.subset.references e.inSubset ++
    match e with
    | .cls c =>
      s.mixinReferences e ++ (s.view.classInducedSlots c.name).flatMap (s.rowReferences c.name)
        ++ (s.view.classParents c.name true false).flatMap s.sectionReferences
    | .slot t => s.mixinReferences e ++ .toRange (s.rangeOf t) :: Kind.cls.references t.domain.toList
    | .type t => Kind.type.references t.typeOf.toList
    | _ => []

/-- The form in which an element is shown on its page: a slot and a type with what they take from
    elsewhere. -/
def shownAs (s : Site) : Element → Option Element
  | .slot t => (s.view.inducedSlot t.name none).map .slot
  | .type t => some (.type ((s.view.inducedType t.name).getD t))
  | e => some e

/-- What the page of a subject shows, if it is about an element. -/
def shown? (s : Site) : Subject → Option Element
  | .index => none
  | .schema _ => none
  | .element kind name => (s.view.elementOfKind? kind name).bind s.shownAs

/-- The names that the page of a subject makes links from. -/
def referencesOf (s : Site) (subject : Subject) : List Reference :=
  (s.shown? subject).toList.flatMap s.references

/-! ## 2. Links from names -/

section Links

variable {s : Site} {e : Element}

/-- The links made from references, in their order. -/
def linksOf (s : Site) (references : List Reference) : List Link :=
  references.map fun r => s.linkTo r.name false

theorem linksOf_append (s : Site) (l l' : List Reference) :
    s.linksOf (l ++ l') = s.linksOf l ++ s.linksOf l' :=
  List.map_append

theorem linksOf_cons (s : Site) (r : Reference) (l : List Reference) :
    s.linksOf (r :: l) = s.linkTo r.name false :: s.linksOf l := rfl

theorem linksOf_flatMap {α : Type} (s : Site) (l : List α) (f : α → List Reference) :
    s.linksOf (l.flatMap f) = l.flatMap fun a => s.linksOf (f a) :=
  List.map_flatMap

theorem linksOf_references (s : Site) (k : Kind) (names : List String) :
    s.linksOf (k.references names) = s.links names := by
  unfold linksOf Kind.references links
  rw [List.map_map]
  rfl

theorem links_option (s : Site) (name : Option String) :
    s.links name.toList = (name.map fun n => s.linkTo n false).toList := by
  cases name <;> rfl

/-- The mixins in an outline are links from the names of mixins. -/
theorem outline_mixins (s : Site) (e : Element) :
    (s.outline e true true).flatMap OutlineLine.mixins = s.linksOf (s.mixinReferences e) := by
  show ((s.outlineNodes e).map (s.outlineLine e.name true)).flatMap OutlineLine.mixins = _
  unfold mixinReferences
  rw [List.flatMap_map, linksOf_flatMap]
  refine List.flatMap_congr fun n _ => ?_
  rw [linksOf_references]
  unfold outlineLine
  cases n.element with
  | none => rfl
  | some a => rfl

theorem slotRow_links (s : Site) (cls : String) (slot : Slot) :
    (s.slotRow cls slot).range :: (s.slotRow cls slot).inheritedFrom =
      s.linksOf (s.rowReferences cls slot) := by
  unfold rowReferences
  rw [linksOf_cons, linksOf_references]
  rfl

theorem mixinSlots_links (s : Site) (c : Class) : (s.mixinSlots c).flatMap MixinSlots.links =
    s.linksOf ((s.view.classParents c.name true false).flatMap s.sectionReferences) := by
  unfold mixinSlots
  rw [List.flatMap_map, linksOf_flatMap]
  refine List.flatMap_congr fun m _ => ?_
  unfold sectionReferences
  rw [linksOf_cons, linksOf_references]
  rfl

theorem namedLinks_classPage (s : Site) (c : Class) (examples : List Example) :
    (Page.cls (s.classPage c examples)).namedLinks = s.linksOf (s.references (.cls c)) := by
  have rows : (s.classPage c examples).slots.flatMap (fun r => r.range :: r.inheritedFrom) =
      s.linksOf ((s.view.classInducedSlots c.name).flatMap (s.rowReferences c.name)) := by
    show ((s.view.classInducedSlots c.name).map (s.slotRow c.name)).flatMap _ = _
    rw [List.flatMap_map, linksOf_flatMap]
    exact List.flatMap_congr fun slot _ => s.slotRow_links c.name slot
  unfold references
  dsimp only
  rw [linksOf_append, linksOf_append, linksOf_append, linksOf_references, ← outline_mixins, ← rows,
    ← mixinSlots_links, ← List.append_assoc, ← List.append_assoc]
  rfl

theorem namedLinks_slotPage (s : Site) (t : Slot) :
    (Page.slot (s.slotPage t)).namedLinks = s.linksOf (s.references (.slot t)) := by
  unfold references
  dsimp only
  rw [linksOf_append, linksOf_append, linksOf_cons, linksOf_references, linksOf_references,
    ← outline_mixins, links_option, ← List.append_assoc]
  rfl

theorem namedLinks_typePage (s : Site) (t : DataType) :
    (Page.type (s.typePage t)).namedLinks = s.linksOf (s.references (.type t)) := by
  unfold references
  dsimp only
  rw [linksOf_append, linksOf_references, linksOf_references, links_option]
  rfl

/-- The lines of an outline are those of its names. -/
theorem node_of_line {line : OutlineLine} (h : line ∈ s.outline e true true) :
    ∃ n ∈ s.outlineNodes e, line = s.outlineLine e.name true n := by
  obtain ⟨n, hn, rfl⟩ := List.mem_map.mp h
  exact ⟨n, hn, rfl⟩

/-- The links and the outline of the page of an element, one kind of element after the other. -/
theorem elementPage_shows {fs : FileSystem} {p : Page} (h : s.elementPage fs e = .ok (some p)) :
    ∃ a, s.shownAs e = some a ∧ p.namedLinks = s.linksOf (s.references a) ∧
      ∀ line ∈ p.outline, line ∈ s.outline a true true := by
  have plain : ∀ a : Element, s.references a = Kind.subset.references a.inSubset ++ [] →
      s.links a.inSubset = s.linksOf (s.references a) := by
    intro a same
    rw [same, List.append_nil, linksOf_references]
  cases e with
  | cls c =>
      obtain ⟨examples, rfl⟩ := classPage_of_elementPage h
      exact ⟨.cls c, rfl, s.namedLinks_classPage c examples, fun _ hl => hl⟩
  | slot t =>
      obtain ⟨i, induced, rfl⟩ := Option.map_eq_some_iff.mp (Except.ok.inj h)
      exact ⟨.slot i, Option.map_eq_some_iff.mpr ⟨i, induced, rfl⟩, s.namedLinks_slotPage i,
        fun _ hl => hl⟩
  | enum t =>
      cases h
      exact ⟨.enum t, rfl, plain (.enum t) rfl, fun _ hl => absurd hl List.not_mem_nil⟩
  | type t =>
      cases h
      exact ⟨_, rfl, s.namedLinks_typePage _, fun _ hl => absurd hl List.not_mem_nil⟩
  | subset t =>
      cases h
      exact ⟨.subset t, rfl, plain (.subset t) rfl, fun _ hl => absurd hl List.not_mem_nil⟩

/-- **The links of a page are made from its references**, one from each and in their order, and its
    outline is that of what it shows. -/
theorem page_shows {fs : FileSystem} {subject : Subject} {p : Page}
    (h : s.page? fs subject = .ok (some p)) :
    p.namedLinks = s.linksOf (s.referencesOf subject) ∧
      ∀ line ∈ p.outline, ∃ a, s.shown? subject = some a ∧ line ∈ s.outline a true true := by
  cases subject with
  | index => cases h; exact ⟨rfl, fun _ hl => absurd hl List.not_mem_nil⟩
  | schema name =>
      obtain ⟨t, _, rfl⟩ := page_schema h
      exact ⟨rfl, fun _ hl => absurd hl List.not_mem_nil⟩
  | element kind name =>
      obtain ⟨e, mem, rfl, rfl, built⟩ := page_element h
      obtain ⟨a, form, links, lines⟩ := elementPage_shows built
      have shown : s.shown? (.element e.kind e.name) = some a := by
        unfold shown?
        dsimp only
        rw [View.elementOfKind?_of_mem mem, Option.bind_some, form]
      refine ⟨?_, fun line hl => ⟨a, shown, lines line hl⟩⟩
      unfold referencesOf
      rw [shown, Option.toList_some, List.flatMap_singleton]
      exact links

end Links

/-! ## 3. What links lead to -/

/-- An element that a name may stand for in its place. -/
def Allowed (s : Site) (r : Reference) (a : Element) : Prop :=
  a.kind ∈ r.kinds ∧ s.view.elementOfKind? a.kind r.name = some a

/-- **A link leads where its name is meant to**: to an element that the name may stand for, if there
    is any. -/
def Proper (s : Site) (r : Reference) (l : Link) : Prop :=
  (∃ a, s.Allowed r a) → ∃ a, s.Allowed r a ∧ l = s.link a false

/-- **An element of another kind is found first**, though there is one that the name may stand for. -/
def Captures (s : Site) (r : Reference) (a : Element) : Prop :=
  s.view.element? r.name = some a ∧ a.kind ∉ r.kinds ∧ ∃ b, s.Allowed r b

section Proper

variable {s : Site} {e : Element} {r : Reference}

/-- A name that stands for an element of some kind stands for something. -/
theorem exists_element? {k : Kind} {n : String} {b : Element}
    (h : s.view.elementOfKind? k n = some b) : ∃ a, s.view.element? n = some a := by
  refine Option.isSome_iff_exists.mp (List.findSome?_isSome_iff.mpr ⟨k, ?_, by rw [h]; rfl⟩)
  cases k <;> decide

/-- **A link from a name leads where it is meant to, unless an element of another kind is found
    first** and the link to it is another one. -/
theorem proper_linkTo_iff : s.Proper r (s.linkTo r.name false) ↔
    ∀ a, s.Captures r a → ∃ b, s.Allowed r b ∧ s.link b false = s.link a false := by
  unfold linkTo
  constructor
  · rintro proper a ⟨found, _, some_allowed⟩
    obtain ⟨b, allowed, same⟩ := proper some_allowed
    rw [found] at same
    exact ⟨b, allowed, same.symm⟩
  · rintro harmless ⟨b, allowed⟩
    obtain ⟨a, found⟩ := exists_element? allowed.2
    rw [found]
    by_cases kind : a.kind ∈ r.kinds
    · obtain ⟨mem, named⟩ := View.mem_of_element? found
      exact ⟨a, ⟨kind, named ▸ View.elementOfKind?_of_mem mem⟩, rfl⟩
    · obtain ⟨b, allowed, same⟩ := harmless a ⟨found, kind, b, allowed⟩
      exact ⟨b, allowed, same.symm⟩

/-- **No element of another kind is found before a class.** -/
theorem not_captures_class {n : String} {a : Element} : ¬ s.Captures ⟨[.cls], n⟩ a := by
  rintro ⟨found, kind, b, allowed, there⟩
  rw [List.mem_singleton.mp allowed] at there
  have first : s.view.element? n = some b := by
    unfold View.element?
    rw [List.findSome?_cons, there]
  rw [first] at found
  cases found
  exact kind allowed

/-- Links made from references lead where they are meant to just if each of them does. -/
theorem forall₂_linksOf_iff {references : List Reference} :
    List.Forall₂ s.Proper references (s.linksOf references) ↔
      ∀ r ∈ references, s.Proper r (s.linkTo r.name false) := by
  unfold linksOf
  rw [List.forall₂_map_right_iff, List.forall₂_same]

/-- **Names above and below an element stand for elements of its kind**: they are looked up among
    these alone. -/
theorem label_of_node {n : ChainNode} {a : Element} (h : n ∈ s.outlineNodes e) (hn : n.name ≠ e.name)
    (ha : s.Allowed ⟨[e.kind], n.name⟩ a) (mixins : Bool) :
    (s.outlineLine e.name mixins n).label = .link (s.link a false) := by
  have found : s.view.elementOfKind? e.kind n.name = n.element := by
    rcases List.mem_append.mp h with h | h
    · rcases List.mem_cons.mp (List.mem_reverse.mp (mem_numbered h)) with same | above
      · exact absurd (congrArg Prod.fst same) hn
      · exact Walk.find_of_climbs (climbs_above s.view e) _ above
    · obtain ⟨m, _, rfl⟩ := List.mem_map.mp h
      rfl
  obtain ⟨kind, there⟩ := ha
  rw [List.mem_singleton.mp kind, found] at there
  unfold outlineLine
  rw [there]
  dsimp only
  rw [if_neg hn]

end Proper

/-- **All links of a page that are made from names lead where they are meant to exactly if no element
    of another kind is found first** for any of these names, unless the link to it is the same. Names
    above and below the element of the page, in its outline, always lead to elements of its kind. -/
theorem namedLinks_proper_iff (s : Site) {fs : FileSystem} {subject : Subject} {p : Page}
    (h : s.page? fs subject = .ok (some p)) :
    (List.Forall₂ s.Proper (s.referencesOf subject) p.namedLinks ↔
      ∀ r ∈ s.referencesOf subject, ∀ a, s.Captures r a →
        ∃ b, s.Allowed r b ∧ s.link b false = s.link a false) ∧
    ∀ line ∈ p.outline, ∃ e n, s.shown? subject = some e ∧ n ∈ s.outlineNodes e ∧
      line = s.outlineLine e.name true n ∧
      (n.name ≠ e.name → ∀ a, s.Allowed ⟨[e.kind], n.name⟩ a →
        line.label = .link (s.link a false)) := by
  obtain ⟨links, lines⟩ := page_shows h
  constructor
  · rw [links, forall₂_linksOf_iff]
    exact forall₂_congr fun r _ => proper_linkTo_iff
  · intro line hl
    obtain ⟨e, shown, mem⟩ := lines line hl
    obtain ⟨n, hn, rfl⟩ := node_of_line mem
    exact ⟨e, n, shown, hn, rfl, fun other a allowed => label_of_node hn other allowed true⟩

/-! ## 4. A slot named like a type -/

/-- A slot with a range. -/
def dateSlot (range : String) : Slot := { name := "date", range := some range }

/-- A site with a slot and two types, one of which has the name of the slot. -/
def calendar (range : String) : Site where
  view := View.ofSchemas
    { id := "p", name := "p", slots := [dateSlot range],
      types := [{ name := "date" }, { name := "day" }] } []
  config := {}

theorem page_calendar (range : String) :
    ∃ p, (calendar range).page? {} (.element .slot "date") = .ok (some p) := by
  have there : Element.slot (dateSlot range) ∈ (calendar range).view.all .slot true := .head _
  rcases showsElement_elementDocument {} there with ⟨p, _, built, _⟩ | ⟨impossible, _⟩
  · exact ⟨p, built⟩
  · cases impossible

theorem references_calendar (range : String) :
    (calendar range).referencesOf (.element .slot "date") = [.toRange range] := by
  have orphan : (calendar range).view.slotParents "date" true = [] := rfl
  have above : (calendar range).view.slotAncestors "date" true false = [] := by
    simp only [View.slotAncestors, View.ancestorsBy, orphan, Walk.preorder]
    rfl
  have induced : (calendar range).view.inducedSlot "date" none = some (dateSlot range) := by
    unfold View.inducedSlot
    rw [above]
    rfl
  have shown : (calendar range).shown? (.element .slot "date") = some (.slot (dateSlot range)) := by
    show ((calendar range).view.inducedSlot "date" none).map Element.slot = _
    rw [induced]
    rfl
  have nodes : (calendar range).outlineNodes (.slot (dateSlot range)) =
      [⟨"date", some (.slot (dateSlot range)), 0⟩] := by
    have top : chainUpwards (calendar range).view (.slot (dateSlot range)) =
        [("date", some (.slot (dateSlot range)))] := by
      unfold chainUpwards
      rw [show (Element.slot (dateSlot range)).isA = none from rfl, Walk.chain]
      rfl
    unfold outlineNodes chain
    rw [top]
    rfl
  have mixins : (calendar range).mixinReferences (.slot (dateSlot range)) = [] := by
    unfold mixinReferences
    rw [nodes]
    rfl
  unfold referencesOf
  rw [shown, Option.toList_some, List.flatMap_singleton]
  unfold references
  dsimp only
  rw [mixins]
  rfl

/-- A range that nothing else has the name of is linked as the type that it is. -/
theorem namedLinks_proper_iff_day :
    ∃ p, (calendar "day").page? {} (.element .slot "date") = .ok (some p) ∧
      List.Forall₂ (calendar "day").Proper [.toRange "day"] p.namedLinks := by
  obtain ⟨p, built⟩ := page_calendar "day"
  have proper := (namedLinks_proper_iff (calendar "day") built).1
  rw [references_calendar] at proper
  refine ⟨p, built, proper.mpr fun r hr a captured => ?_⟩
  cases List.mem_singleton.mp hr
  have found : (calendar "day").view.element? "day" = some (.type { name := "day" }) := by rfl
  cases captured.1.symm.trans found
  exact absurd captured.2.1 (by decide)

/-- A range that is named like the slot itself is linked as the slot, though there is a type of this
    name, which has another page. -/
theorem captured_date :
    ∃ p, (calendar "date").page? {} (.element .slot "date") = .ok (some p) ∧
      p.namedLinks = [.page "date" "date.md"] ∧
      (calendar "date").Allowed (.toRange "date") (.type { name := "date" }) ∧
      (calendar "date").link (.type { name := "date" }) false = .page "Date" "Date.md" ∧
      ¬ List.Forall₂ (calendar "date").Proper
        ((calendar "date").referencesOf (.element .slot "date")) p.namedLinks := by
  obtain ⟨p, built⟩ := page_calendar "date"
  have links : p.namedLinks = [.page "date" "date.md"] := by
    rw [(page_shows built).1, references_calendar]
    decide +kernel
  have type : (calendar "date").Allowed (.toRange "date") (.type { name := "date" }) :=
    ⟨by decide, by rfl⟩
  have own : (calendar "date").link (.type { name := "date" }) false = .page "Date" "Date.md" := by
    decide +kernel
  refine ⟨p, built, links, type, own, fun proper => ?_⟩
  rw [links, references_calendar] at proper
  obtain ⟨a, ⟨kind, found⟩, same⟩ := (List.forall₂_cons.mp proper).1 ⟨_, type⟩
  -- Of the kinds that a range may be, only types have an element of this name.
  have only : a = .type { name := "date" } := by
    generalize a.kind = k at kind found
    cases k with
    | type => exact (Option.some.inj found).symm
    | cls => cases found
    | enum => cases found
    | slot => exact absurd kind (by decide)
    | subset => exact absurd kind (by decide)
  rw [only, own] at same
  exact absurd same (by decide)

end Site

end SchemaPages
