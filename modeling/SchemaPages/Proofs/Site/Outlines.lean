import SchemaPages.Proofs.Site.PageLinks
/-!
# The shape of outlines

An outline shows an element below everything that it inherits from, and above its children, each with
one bullet. A name in an outline is written as it is, so it is on one line unless it holds a line
break itself.

* `Ascends`, `ascends_chain`: the chain of an element;
* `shownTexts`, `Entry`, `entry_lineText`: what stands in an outline for a name;
* `directChildren`, `childNodes_eq`: the children of an element;
* `tree_shape`: the text of a whole outline;
* `not_lines_orphan`: a name that takes two lines.
-/

namespace SchemaPages.Site

variable {s : Site} {e : Element}

/-! ## 1. Chains -/

/-- **The chain of an element**: its parents from the top down, and then the element. -/
structure Ascends (s : Site) (e : Element) (nodes : List ChainNode) : Prop where
  /-- Going from parent to parent comes to its end, and has met these names. -/
  ends : ∃ above,
    Walk.Climbs (s.view.elementOfKind? e.kind) Element.isA [e.name] e.isA above ∧
      nodes.reverse.map (fun n => (n.name, n.element)) = (e.name, some e) :: above
  distinct : (nodes.map ChainNode.name).Nodup
  last : nodes.getLast? = some ⟨e.name, some e, nodes.length - 1⟩
  depth : ∀ (i : Nat) (n : ChainNode), nodes[i]? = some n → n.depth = i
  /-- Each name is that of the parent of the next one. -/
  parent : nodes.IsChain fun above below => below.element.bind Element.isA = some above.name
  /-- The first one stands for nothing, has no parent, or has one that is in the chain. -/
  top : ∀ n, nodes.head? = some n → n.element = none ∨ ∃ a, n.element = some a ∧
    (a.isA = none ∨ ∃ p, a.isA = some p ∧ p ∈ nodes.map ChainNode.name)

/-- Numbering keeps names and what they stand for. -/
theorem map_numbered (depth : Nat) (nodes : List (String × Option Element)) :
    (numbered depth nodes).map (fun n => (n.name, n.element)) = nodes := by
  induction nodes generalizing depth with
  | nil => rfl
  | cons x rest ih => rw [numbered, List.map_cons, ih]

/-- Nodes are numbered from the top. -/
theorem getElem?_numbered (depth i : Nat) (nodes : List (String × Option Element)) :
    (numbered depth nodes)[i]? = nodes[i]?.map fun x => ⟨x.1, x.2, depth + i⟩ := by
  induction nodes generalizing depth i with
  | nil => rfl
  | cons x rest ih =>
      cases i with
      | zero => rfl
      | succ i =>
          rw [numbered, List.getElem?_cons_succ, List.getElem?_cons_succ, ih]
          congr 1
          funext y
          rw [Nat.add_assoc, Nat.add_comm 1 i]

theorem chain_pairs (s : Site) (e : Element) :
    (s.chain e).reverse.map (fun n => (n.name, n.element)) = chainUpwards s.view e := by
  rw [List.map_reverse, chain, map_numbered, List.reverse_reverse]

theorem chain_names (s : Site) (e : Element) :
    (s.chain e).map ChainNode.name = ((chainUpwards s.view e).map Prod.fst).reverse := by
  rw [← chain_pairs, List.map_map, List.map_reverse, List.reverse_reverse]
  rfl

/-- **The chain of an element goes up from it**, whatever its parents are. -/
theorem ascends_chain (s : Site) (e : Element) : s.Ascends e (s.chain e) := by
  have climbs := climbs_above s.view e
  have upwards : chainUpwards s.view e = (e.name, some e) :: (chainUpwards s.view e).tail := rfl
  have length : (s.chain e).length = (chainUpwards s.view e).length := by
    rw [← chain_pairs s e, List.length_map, List.length_reverse]
  refine ⟨⟨_, climbs, by rw [chain_pairs]; exact upwards⟩, ?_, ?_, ?_, ?_, ?_⟩
  · rw [chain_names, List.nodup_reverse, upwards, List.map_cons, List.nodup_cons]
    refine ⟨fun there => ?_, Walk.nodup_of_climbs climbs⟩
    obtain ⟨x, hx, same⟩ := List.mem_map.mp there
    exact Walk.fresh_of_climbs climbs x hx (List.mem_singleton.mpr same)
  · rw [List.getLast?_eq_getElem?, chain, getElem?_numbered, ← chain, length]
    rw [← List.length_reverse, ← List.getLast?_eq_getElem?, List.getLast?_reverse, upwards]
    simp
  · intro i n hn
    rw [chain, getElem?_numbered, Option.map_eq_some_iff] at hn
    obtain ⟨_, _, rfl⟩ := hn
    exact Nat.zero_add i
  · have up := Walk.isChain_of_climbs climbs (e.name, some e) rfl
    rw [← upwards, ← chain_pairs, List.isChain_map, List.isChain_reverse] at up
    exact up
  · intro n hn
    have head : (chainUpwards s.view e).getLast? = some (n.name, n.element) := by
      rw [← chain_pairs, List.getLast?_map, List.getLast?_reverse, hn]
      rfl
    cases stands : n.element with
    | none => exact Or.inl rfl
    | some a =>
        refine Or.inr ⟨a, rfl, ?_⟩
        have why := Walk.top_of_climbs climbs (e.name, some e) rfl _ (upwards ▸ head)
        rw [stands] at why
        refine why.imp_right fun ⟨p, up, met⟩ => ⟨p, up, ?_⟩
        rw [chain_names, List.mem_reverse, upwards, List.map_cons, List.mem_cons]
        exact met.imp_left List.mem_singleton.mp

/-! ## 2. Entries -/

/-- The texts that an outline shows for a name: the name if it stands for nothing, else the focus or
    a link, and its mixins where they are wanted. -/
def shownTexts (s : Site) (e : Element) (mixins : Bool) (n : ChainNode) : List String :=
  match n.element with
  | none => [n.name]
  | some a =>
    (if n.name = e.name then s.focusName a else (s.link a false).render s.config.format) ::
      if mixins then (s.links a.mixins).map (Link.render s.config.format) else []

/-- **What stands in an outline for a name**: a bullet, four blanks further in for each level, and
    behind it what is shown, up to a line break. All its texts are there, and no line break but
    theirs. -/
def Entry (s : Site) (e : Element) (mixins : Bool) (n : ChainNode) (text : String) : Prop :=
  ∃ shown : String,
    text = String.ofList (List.replicate (4 * n.depth) ' ') ++ "* " ++ shown ++ "\n" ∧
      (∀ t ∈ s.shownTexts e mixins n, t.toList <:+: shown.toList) ∧
      ('\n' ∈ shown.toList → ∃ t ∈ s.shownTexts e mixins n, '\n' ∈ t.toList)

/-- All mixins stand behind a name. -/
theorem infix_mixinsText (f : OutputFormat) {mixins : List Link} {m : Link} (hm : m ∈ mixins) :
    (m.render f).toList <:+: (Outline.mixinsText f mixins).toList := by
  cases mixins with
  | nil => exact absurd hm List.not_mem_nil
  | cons first rest =>
      have piece : (m.render f).toList <:+: (" " ++ m.render f).toList := by
        rw [String.toList_append]
        exact (List.suffix_append _ _).isInfix
      have joined : (" " ++ m.render f).toList <:+:
          (String.join ((first :: rest).map fun m => " " ++ m.render f)).toList := by
        rw [String.toList_join, List.flatMap_def]
        exact List.infix_of_mem_flatten (List.mem_map_of_mem (List.mem_map_of_mem hm))
      rw [Outline.mixinsText, String.toList_append, String.toList_append]
      · exact (piece.trans joined).trans (List.infix_append _ _ _)
      · exact List.cons_ne_nil _ _

/-- The mixins behind a name hold a line break only if one of them does. -/
theorem lineFeed_of_mem_mixinsText {f : OutputFormat} {mixins : List Link}
    (h : '\n' ∈ (Outline.mixinsText f mixins).toList) :
    ∃ t ∈ mixins.map (Link.render f), '\n' ∈ t.toList := by
  cases mixins with
  | nil => simp [Outline.mixinsText] at h
  | cons m rest => simpa [Outline.mixinsText] using h

section Shown

variable (s : Site) (e : Element) (mixins : Bool) (n : ChainNode)

/-- What stands in the line of a name behind the bullet. -/
def shownText : String :=
  Outline.labelText s.config.format (s.outlineLine e.name mixins n).label ++
    Outline.mixinsText s.config.format (s.outlineLine e.name mixins n).mixins

/-- All texts that are shown for a name stand in its line. -/
theorem infix_shownText {t : String} (ht : t ∈ s.shownTexts e mixins n) :
    t.toList <:+: (s.shownText e mixins n).toList := by
  unfold shownTexts at ht
  unfold shownText outlineLine
  rw [String.toList_append]
  cases stands : n.element with
  | none =>
      rw [stands] at ht
      cases List.mem_singleton.mp ht
      exact List.infix_append_of_infix_left List.infix_rfl
  | some a =>
      rw [stands] at ht
      rcases List.mem_cons.mp ht with rfl | ht
      · refine List.infix_append_of_infix_left ?_
        by_cases focus : n.name = e.name
        · simp only [if_pos focus, Outline.labelText, String.toList_append]
          exact List.infix_append _ _ _
        · simp only [if_neg focus, Outline.labelText]
          exact List.infix_rfl
      · refine List.infix_append_of_infix_right ?_
        cases mixins with
        | false => exact absurd ht List.not_mem_nil
        | true =>
            obtain ⟨m, hm, rfl⟩ := List.mem_map.mp ht
            exact infix_mixinsText _ hm

/-- A line break in the line of a name is one of a text that is shown for it. -/
theorem lineFeed_of_mem_shownText (h : '\n' ∈ (s.shownText e mixins n).toList) :
    ∃ t ∈ s.shownTexts e mixins n, '\n' ∈ t.toList := by
  unfold shownText outlineLine at h
  unfold shownTexts
  rw [String.toList_append, List.mem_append] at h
  cases stands : n.element with
  | none =>
      rw [stands] at h
      simpa [Outline.labelText, Outline.mixinsText] using h
  | some a =>
      rw [stands] at h
      rcases h with h | h
      · refine ⟨_, List.mem_cons_self, ?_⟩
        by_cases focus : n.name = e.name
        · simpa [Outline.labelText, focus] using h
        · simpa [Outline.labelText, focus] using h
      · obtain ⟨t, ht, feed⟩ := lineFeed_of_mem_mixinsText h
        refine ⟨t, List.mem_cons_of_mem _ ?_, feed⟩
        cases mixins with
        | false => exact absurd ht List.not_mem_nil
        | true => exact ht

/-- **Every line of an outline is the entry of its name.** -/
theorem entry_lineText :
    s.Entry e mixins n (Outline.lineText s.config.format (s.outlineLine e.name mixins n)) := by
  have depth : (s.outlineLine e.name mixins n).depth = n.depth := by
    unfold outlineLine
    split <;> rfl
  refine ⟨s.shownText e mixins n, ?_, fun t => s.infix_shownText e mixins n,
    s.lineFeed_of_mem_shownText e mixins n⟩
  rw [Outline.lineText, depth, Outline.indentWidth, Nat.mul_comm]
  simp only [shownText, String.append_assoc]

end Shown

/-! ## 3. Children -/

/-- **The direct children of an element**: the classes or slots that name it as their parent, in their
    order. Types have none in an outline. -/
def directChildren (s : Site) (e : Element) : List Element :=
  if e.kind = .cls ∨ e.kind = .slot then (s.view.all e.kind true).filter (·.isA == some e.name)
  else []

/-- The children of an element stand for themselves. -/
theorem childNodes_eq (s : Site) (e : Element) (depth : Nat) :
    s.childNodes e depth = (s.directChildren e).map fun c => ⟨c.name, some c, depth⟩ := by
  have names : s.childNames e = (s.directChildren e).map Element.name := by
    cases e with
    | cls c =>
        have all : s.view.all .cls true = s.view.merged.classes.map .cls := rfl
        show _ = ((s.view.all .cls true).filter (·.isA == some c.name)).map Element.name
        rw [all, List.filter_map, List.map_map]
        simp only [childNames, Element.kind, View.classChildren, Bool.false_and, Bool.or_false]
        rfl
    | slot t =>
        have all : s.view.all .slot true = s.view.merged.slots.map .slot := rfl
        show _ = ((s.view.all .slot true).filter (·.isA == some t.name)).map Element.name
        rw [all, List.filter_map, List.map_map]
        simp only [childNames, Element.kind, View.slotChildren, Bool.false_and, Bool.or_false]
        rfl
    | type t | enum t | subset t => rfl
  unfold childNodes
  rw [names, List.map_map]
  refine List.map_congr_left fun c hc => ?_
  have there : c ∈ s.view.all e.kind true := by
    unfold directChildren at hc
    split at hc
    · exact List.mem_of_mem_filter hc
    · exact absurd hc List.not_mem_nil
  simp [View.elementOfKind?_of_mem there]

/-- **The shape of an outline.** The chain of an element, which goes up from it whatever its parents
    are, gives one entry for each name, with as many levels of indentation as there are names above
    it. One entry for each direct child follows, one level below the element. An entry is one line
    of the text unless something that it shows holds a line break. -/
theorem tree_shape (s : Site) (e : Element) (mixins : Bool) :
    s.Ascends e (s.chain e) ∧
      ∃ above below : List String, s.tree e true mixins = String.join (above ++ below) ∧
        List.Forall₂ (s.Entry e mixins) (s.chain e) above ∧
        List.Forall₂ (fun c text => s.Entry e mixins ⟨c.name, some c, (s.chain e).length⟩ text)
          (s.directChildren e) below := by
  let text (n : ChainNode) : String :=
    Outline.lineText s.config.format (s.outlineLine e.name mixins n)
  refine ⟨s.ascends_chain e, (s.chain e).map text,
    (s.directChildren e).map fun c => text ⟨c.name, some c, (s.chain e).length⟩, ?_, ?_, ?_⟩
  · show String.join (((s.chain e ++ s.childNodes e (s.chain e).length).map
      (s.outlineLine e.name mixins)).map (Outline.lineText s.config.format)) = _
    rw [childNodes_eq, List.map_append, List.map_append, List.map_map, List.map_map,
      List.map_map]
    rfl
  · rw [List.forall₂_map_right_iff, List.forall₂_same]
    exact fun n _ => entry_lineText s e mixins n
  · rw [List.forall₂_map_right_iff, List.forall₂_same]
    exact fun c _ => entry_lineText s e mixins _

/-- A class whose parent has a line break in its name. -/
def orphan : Class := { name := "A", isA := some "x\ny" }

/-- A site of one class, whose parent stands for nothing. -/
def orphanSite : Site where
  view := View.ofSchemas { id := "p", name := "p", classes := [orphan] } []
  config := {}

/-- The outline of this class has more lines than the two names of its chain and no children ask for:
    the name of the parent is written as it is. -/
theorem not_lines_orphan :
    .cls orphan ∈ orphanSite.view.all .cls true ∧
      orphanSite.chain (.cls orphan) = [⟨"x\ny", none, 0⟩, ⟨"A", some (.cls orphan), 1⟩] ∧
      orphanSite.tree (.cls orphan) true false = "* x\ny\n    * **A**\n" ∧
      (orphanSite.tree (.cls orphan) true false).toList.count '\n' ≠
        (orphanSite.chain (.cls orphan)).length +
          (orphanSite.directChildren (.cls orphan)).length := by
  have unknown : orphanSite.view.elementOfKind? .cls "x\ny" = none := rfl
  have upwards : chainUpwards orphanSite.view (.cls orphan) =
      [("A", some (.cls orphan)), ("x\ny", none)] := by
    have above : Walk.chain (orphanSite.view.elementOfKind? .cls) Element.isA
        (namesOfKind orphanSite.view .cls) ["A"] (some "x\ny") = [("x\ny", none)] := by
      rw [Walk.chain, if_neg (by decide), unknown]
    exact congrArg (("A", some (Element.cls orphan)) :: ·) above
  have chain : orphanSite.chain (.cls orphan) =
      [⟨"x\ny", none, 0⟩, ⟨"A", some (.cls orphan), 1⟩] := by
    unfold Site.chain
    rw [upwards]
    rfl
  have text : orphanSite.tree (.cls orphan) true false = "* x\ny\n    * **A**\n" := by
    unfold tree outline
    rw [chain]
    decide +kernel
  have there : .cls orphan ∈ orphanSite.view.all .cls true := List.mem_singleton_self _
  have childless : orphanSite.directChildren (.cls orphan) = [] := rfl
  refine ⟨there, chain, text, ?_⟩
  rw [text, chain, childless]
  decide

end SchemaPages.Site
