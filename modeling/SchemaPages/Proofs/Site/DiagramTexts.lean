import SchemaPages.Proofs.Site.Diagrams
/-!
# Texts of diagrams

Each notation has its own way to make a text, and each decides on its own which slots lead to a class
of the diagram. What a text says is read by a grammar that knows nothing of these ways: every piece is
a line of words, or a block of such lines, and names the class, the ends or the slot that it is about.

* `Diagram.line`, `Diagram.Spells`: the pieces of each notation and the one statement that each makes;
* `Diagram.Puts`: pieces one after another, `Diagram.Written`: a whole text;
* `written_mermaid`, `written_er`, `written_plantUml`: the three texts, `written_render`;
* `render_shows`: what the texts of diagrams say.
-/

namespace SchemaPages

namespace Diagram

open Text (joinedWords underscored)

/-! ## 1. The grammar -/

/-- A line of words. -/
def line (indent : String) (words : List String) : String := indent ++ Text.join " " words ++ "\n"

/-- A word in quotation marks. -/
def inQuotes (word : String) : String := "\"" ++ word ++ "\""

/-- **How a notation spells what it says**: the piece of text that a statement is. Mermaid writes
    classes by their joined words and slots by their underscored ones, PlantUML writes both as they
    are. -/
inductive Spells : DiagramType → Statement → String → Prop
  | mermaidClass (name : String) :
      Spells .mermaidClass (.declares name []) (line "    " ["class", joinedWords name])
  | mermaidClick (name target : String) :
      Spells .mermaidClass (.leads name target)
        (line "    " ["click", joinedWords name, "href", inQuotes target])
  | mermaidParent (child parent : String) :
      Spells .mermaidClass (.inherits child parent)
        (line "    " [joinedWords parent, "<|--", joinedWords child])
  | mermaidMixin (child mixin : String) :
      Spells .mermaidClass (.mixesIn child mixin)
        (line "    " [joinedWords mixin, "<|..", joinedWords child])
  | mermaidAssociation (source : String) (s : Slot) (target : String) :
      Spells .mermaidClass (.associates source s target)
        (line "    " [joinedWords source, "-->", inQuotes s.cardinality, joinedWords target, ":",
          underscored s.name])
  | mermaidAttribute (owner : String) (s : Slot) :
      Spells .mermaidClass (.has owner s) (line "    " [joinedWords owner, ":", underscored s.name])
  | erClass (name : String) : Spells .er (.declares name []) (line "" [joinedWords name])
  | erBlock (name : String) (s : Slot) (rest : List Slot) :
      Spells .er (.declares name (s :: rest))
        (line "" [joinedWords name, "\x7b"]
          ++ String.join ((s :: rest).map fun s =>
            line "    " [underscored (rangeOrString s), underscored s.name])
          ++ line "" ["\x7d"])
  | erAssociation (source : String) (s : Slot) (target : String) :
      Spells .er (.associates source s target)
        (line "" [joinedWords source, "||--" ++ crowsFoot s, joinedWords target, ":",
          inQuotes (underscored s.name)])
  | plantUmlClass (name : String) :
      Spells .plantUmlClass (.declares name []) (line "" ["class", inQuotes name])
  | plantUmlBlock (name : String) (s : Slot) (rest : List Slot) :
      Spells .plantUmlClass (.declares name (s :: rest))
        (line "" ["class", inQuotes name, "\x7b"]
          ++ String.join ((s :: rest).map fun s =>
            line "    " ["\x7bfield\x7d", s.name, ":", rangeOrString s])
          ++ line "" ["\x7d"])
  | plantUmlParent (child parent : String) :
      Spells .plantUmlClass (.inherits child parent)
        (line "" [inQuotes parent, "<|--", inQuotes child])
  | plantUmlMixin (child mixin : String) :
      Spells .plantUmlClass (.mixesIn child mixin)
        (line "" [inQuotes mixin, "<|..", inQuotes child])
  | plantUmlAssociation (source : String) (s : Slot) (target : String) :
      Spells .plantUmlClass (.associates source s target)
        (line "" [inQuotes source, "-->", inQuotes s.cardinality, inQuotes target, ":",
          inQuotes s.name])

/-- **Statements put one after another**, each in a piece of its own. -/
inductive Puts (t : DiagramType) : List Statement → String → Prop
  | nil : Puts t [] ""
  | cons {x : Statement} {piece : String} {said : List Statement} {text : String} :
      Spells t x piece → Puts t said text → Puts t (x :: said) (piece ++ text)

/-- How a text in a notation begins. -/
def opening : DiagramType → String
  | .mermaidClass => "classDiagram\n"
  | .er => "erDiagram\n"
  | .plantUmlClass => "@startuml\nskinparam nodesep 10\nhide circle\nhide empty members\n"

/-- What stands between the declarations and all else. -/
def between : DiagramType → String
  | .er => "\n"
  | _ => ""

/-- How it ends. -/
def closing : DiagramType → String
  | .plantUmlClass => "@enduml\n"
  | _ => ""

/-- **Statements written as a text**: each is said by one piece of it, in their order, and besides these
    pieces there is only the frame of the notation. -/
structure Written (t : DiagramType) (said : List Statement) (text : String) : Prop where
  pieces : ∃ first rest head body, said = first ++ rest ∧ Puts t first head ∧ Puts t rest body ∧
    text = opening t ++ head ++ between t ++ body ++ closing t

section Puts

variable {t : DiagramType}

theorem Puts.single {x : Statement} {piece text : String} (h : Spells t x piece) (made : text = piece) :
    Puts t [x] text := by
  subst made
  simpa using Puts.cons h .nil

theorem Puts.append {a b : List Statement} {p q : String} (ha : Puts t a p) (hb : Puts t b q) :
    Puts t (a ++ b) (p ++ q) := by
  induction ha with
  | nil => simpa using hb
  | cons spelled _ ih => simpa [String.append_assoc] using Puts.cons spelled ih

theorem Puts.flatMap {α : Type} {f : α → List Statement} {g : α → String}
    (h : ∀ x, Puts t (f x) (g x)) (l : List α) : Puts t (l.flatMap f) (String.join (l.map g)) := by
  induction l with
  | nil => exact .nil
  | cons x rest ih => simpa [List.flatMap_cons] using (h x).append ih

theorem Puts.map {α : Type} {f : α → Statement} {g : α → String} (h : ∀ x, Puts t [f x] (g x))
    (l : List α) : Puts t (l.map f) (String.join (l.map g)) := by
  rw [List.map_eq_flatMap]
  exact Puts.flatMap h l

end Puts

/-- The texts of the texts in lists, all in one. -/
theorem join_flatMap {α : Type} (f : α → List String) (l : List α) :
    String.join (l.flatMap f) = String.join (l.map fun x => String.join (f x)) := by
  induction l with
  | nil => rfl
  | cons x rest ih => simp [List.flatMap_cons, ih]

/-! ## 2. Class diagrams of Mermaid -/

section Mermaid

variable (drawn : List String) (links : String → Option String) (c : DrawnClass)

theorem puts_mermaidHead :
    Puts .mermaidClass (.declares c.name [] :: (links c.name).toList.map (.leads c.name))
      (mermaidHead links c) := by
  have declares : Puts .mermaidClass [.declares c.name []]
      ("    class " ++ joinedWords c.name ++ "\n") := by
    refine .single (.mermaidClass _) ?_
    rw [← String.toList_inj]
    simp [line, Text.join]
  unfold mermaidHead
  refine declares.append (b := (links c.name).toList.map (.leads c.name)) ?_
  cases links c.name with
  | none => exact .nil
  | some target =>
      refine .single (.mermaidClick _ _) ?_
      rw [← String.toList_inj]
      simp [line, inQuotes, Text.join]

theorem puts_mermaidSlot (s : Slot) :
    Puts .mermaidClass [slotStatement drawn c s] (mermaidSlot drawn (joinedWords c.name) s) := by
  unfold slotStatement mermaidSlot
  have same : classRange drawn s = target? drawn s := rfl
  rw [same]
  cases target? drawn s with
  | some r =>
      refine .single (.mermaidAssociation _ _ _) ?_
      rw [← String.toList_inj]
      simp [line, inQuotes, Text.join]
  | none =>
      refine .single (.mermaidAttribute _ _) ?_
      rw [← String.toList_inj]
      simp [line, Text.join]

theorem puts_mermaidBody :
    Puts .mermaidClass (parentStatements drawn c ++ slotStatements drawn c .mermaidClass)
      (mermaidBody drawn c) := by
  refine .append (.append ?_ (Puts.map (fun mixin => ?_) _)) (Puts.map (puts_mermaidSlot drawn c) _)
  · cases c.isA.filter (· ∈ drawn) with
    | none => exact .nil
    | some parent =>
        refine .single (.mermaidParent _ _) ?_
        rw [← String.toList_inj]
        simp [line, Text.join]
  · refine .single (.mermaidMixin _ _) ?_
    rw [← String.toList_inj]
    simp [line, Text.join]

end Mermaid

/-- **The text of a class diagram of Mermaid.** -/
theorem written_mermaid (d : Diagram) (links : String → Option String) :
    Written .mermaidClass (d.statements links .mermaidClass) (renderMermaid d links) where
  pieces := ⟨_, _, _, _, rfl, Puts.flatMap (puts_mermaidHead links) d,
    Puts.flatMap (puts_mermaidBody d.present) d, by simp [renderMermaid, opening, between, closing]⟩

/-! ## 3. Entity relationship diagrams -/

section Er

variable (drawn : List String) (c : DrawnClass)

/-- **Going through the slots once parts them**: what is kept are the attributes, and the others have
    come behind the relationships that there were. -/
theorem erSlots_eq (id : String) (relationships : List String) (slots : List Slot) :
    erSlots drawn id relationships slots =
      (slots.filter fun s => (target? drawn s).isNone,
        relationships ++ slots.filterMap fun s =>
          (target? drawn s).map fun r => erRelationship id r s) := by
  induction slots generalizing relationships with
  | nil => simp [erSlots]
  | cons s rest ih =>
      have same : classRange drawn s = target? drawn s := rfl
      unfold erSlots
      rw [same]
      cases leads : target? drawn s with
      | some r => simp [leads, ih]
      | none => simp [leads, ih]

/-- The declaration of a class with the attributes that were kept. -/
def erText (name : String) (attributes : List Slot) : String :=
  if attributes = [] then joinedWords name ++ "\n"
  else
    joinedWords name ++ " \x7b\n"
      ++ String.join (attributes.map fun s =>
        "    " ++ underscored (rangeOrString s) ++ " " ++ underscored s.name ++ "\n")
      ++ "\x7d\n"

theorem puts_erText (name : String) (attributes : List Slot) :
    Puts .er [.declares name attributes] (erText name attributes) := by
  cases attributes with
  | nil =>
      refine .single (.erClass _) ?_
      rw [← String.toList_inj]
      simp [erText, line, Text.join]
  | cons s rest =>
      have rows : (fun s : Slot =>
            "    " ++ underscored (rangeOrString s) ++ " " ++ underscored s.name ++ "\n") =
          fun s => line "    " [underscored (rangeOrString s), underscored s.name] := by
        funext s
        simp [line, Text.join, String.append_assoc]
      refine .single (.erBlock _ _ _) ?_
      rw [erText, if_neg (List.cons_ne_nil _ _), rows, ← String.toList_inj]
      simp [line, Text.join]

/-- The relationships of a class. -/
def erRelationships : List String :=
  c.slots.filterMap fun s => (target? drawn s).map fun r => erRelationship (joinedWords c.name) r s

theorem erClass_eq (written : String × List String) :
    erClass drawn written c =
      (written.1 ++ erText c.name (fields drawn c), written.2 ++ erRelationships drawn c) := by
  simp only [erClass, erSlots_eq, erText]
  show (if fields drawn c = [] then _ else _) = _
  split
  · simp [erRelationships, String.append_assoc]
  · simp [erRelationships, String.append_assoc, fields]

/-- Going through all classes. -/
theorem foldl_erClass (classes : List DrawnClass) (written : String × List String) :
    classes.foldl (erClass drawn) written =
      (written.1 ++ String.join (classes.map fun c => erText c.name (fields drawn c)),
        written.2 ++ classes.flatMap (erRelationships drawn)) := by
  induction classes generalizing written with
  | nil => simp
  | cons c rest ih => simp [ih, erClass_eq, String.append_assoc]

theorem puts_erRelationships :
    Puts .er (slotStatements drawn c .er) (String.join (erRelationships drawn c)) := by
  show Puts .er (associations drawn c) _
  unfold associations erRelationships
  rw [List.filterMap_eq_flatMap_toList, List.filterMap_eq_flatMap_toList, join_flatMap]
  refine Puts.flatMap (fun s => ?_) _
  cases target? drawn s with
  | none => exact .nil
  | some r =>
      refine .single (.erAssociation _ _ _) ?_
      rw [← String.toList_inj]
      simp [erRelationship, line, inQuotes, Text.join]

end Er

/-- **The text of an entity relationship diagram.** -/
theorem written_er (d : Diagram) (links : String → Option String) :
    Written .er (d.statements links .er) (renderEr d) where
  pieces := by
    refine ⟨_, _, _, _, rfl, Puts.map (fun c => puts_erText c.name (fields d.present c)) d,
      Puts.flatMap (puts_erRelationships d.present) d, ?_⟩
    simp only [renderEr, foldl_erClass, List.nil_append, join_flatMap]
    simp [opening, between, closing]

/-! ## 4. Class diagrams of PlantUML -/

section PlantUml

variable (drawn : List String) (c : DrawnClass)

theorem puts_plantUmlHead :
    Puts .plantUmlClass [.declares c.name (declaredFields drawn c .plantUmlClass)]
      (plantUmlHead drawn c) := by
  have kept : c.slots.filter (fun s => (classRange drawn s).isNone) = fields drawn c := rfl
  unfold plantUmlHead declaredFields
  rw [kept]
  cases fields drawn c with
  | nil =>
      refine .single (.plantUmlClass _) ?_
      rw [← String.toList_inj]
      simp [line, inQuotes, Text.join]
  | cons s rest =>
      have rows : (fun s : Slot =>
            "    \x7bfield\x7d " ++ s.name ++ " : " ++ rangeOrString s ++ "\n") =
          fun s => line "    " ["\x7bfield\x7d", s.name, ":", rangeOrString s] := by
        funext s
        rw [← String.toList_inj]
        simp [line, Text.join]
      refine .single (.plantUmlBlock _ _ _) ?_
      dsimp only
      rw [if_neg (List.cons_ne_nil _ _), rows, ← String.toList_inj]
      simp [line, inQuotes, Text.join]

theorem puts_plantUmlSlots :
    Puts .plantUmlClass (slotStatements drawn c .plantUmlClass)
      (String.join (c.slots.map (plantUmlSlot drawn c.name))) := by
  show Puts .plantUmlClass (associations drawn c) _
  unfold associations
  rw [List.filterMap_eq_flatMap_toList]
  refine Puts.flatMap (fun s => ?_) _
  have same : classRange drawn s = target? drawn s := rfl
  unfold plantUmlSlot
  rw [same]
  cases target? drawn s with
  | none => exact .nil
  | some r =>
      refine .single (.plantUmlAssociation _ _ _) ?_
      rw [← String.toList_inj]
      simp [line, inQuotes, Text.join]

theorem puts_plantUmlBody :
    Puts .plantUmlClass (parentStatements drawn c ++ slotStatements drawn c .plantUmlClass)
      (plantUmlBody drawn c) := by
  refine .append (.append ?_ (Puts.map (fun mixin => ?_) _)) (puts_plantUmlSlots drawn c)
  · cases c.isA.filter (· ∈ drawn) with
    | none => exact .nil
    | some parent =>
        refine .single (.plantUmlParent _ _) ?_
        rw [← String.toList_inj]
        simp [line, inQuotes, Text.join]
  · refine .single (.plantUmlMixin _ _) ?_
    rw [← String.toList_inj]
    simp [line, inQuotes, Text.join]

end PlantUml

/-- **The text of a class diagram of PlantUML.** -/
theorem written_plantUml (d : Diagram) (links : String → Option String) :
    Written .plantUmlClass (d.statements links .plantUmlClass) (renderPlantUml d) where
  pieces := by
    refine ⟨_, _, _, _, rfl, Puts.map (fun c => puts_plantUmlHead d.present c) d,
      Puts.flatMap (puts_plantUmlBody d.present) d, ?_⟩
    unfold renderPlantUml opening between closing
    simp only [String.append_empty]

/-! ## 5. All notations -/

/-- **Every statement of a diagram is written.** -/
theorem written_render (d : Diagram) (links : String → Option String) (t : DiagramType) :
    Written t (d.statements links t) (d.render links t) := by
  cases t with
  | mermaidClass => simpa only [render] using written_mermaid d links
  | er => simpa only [render] using written_er d links
  | plantUmlClass => simpa only [render] using written_plantUml d links

/-- **What the texts of diagrams say.** A diagram is about those of the given names that name a class,
    or without any about the classes of the root, in the order of these names. Every notation shows
    exactly these classes and their slots, so all show the same attributes and the same associations;
    and its text is what it shows, spelled piece by piece. -/
theorem render_shows (v : View) (names : List String) :
    (∀ n, n ∈ drawnNames v names ↔ n ∈ subjects v names ∧ (v.class? n).isSome) ∧
      InOrderOf (subjects v names) (drawnNames v names) ∧
      ∀ (links : String → Option String) (t : DiagramType),
        Shows v (drawnNames v names) ((ofClasses v names).statements links t) ∧
          Written t ((ofClasses v names).statements links t) ((ofClasses v names).render links t) :=
  ⟨fun _ => mem_drawnNames_iff, drawnNames_in_order, fun links t =>
    ⟨shows_statements v names links t, written_render _ links t⟩⟩

end Diagram

end SchemaPages
