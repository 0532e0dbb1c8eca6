import SchemaPages.Data.Yaml.Shaped
import SchemaPages.Proofs.Data.Yaml.Nodes
/-!
# Documents of YAML are read back

A scalar means what was written: plain texts are written only where they mean nothing else. Where it is
known what the scalars of a document should hold, they mean what is wanted.

* `resolve_plain`, `quote_injective`: texts as scalars and as keys;
* `means_value`: what the node of a value means;
* `read_render`: **a document is read as what was written**;
* `Fits`: values that their scalars mean where a shape is wanted;
* `readShaped_render`: what a document of two levels is read as.
-/

namespace SchemaPages.Yaml

/-! ## 1. Texts -/

section Texts

variable {s t : String}

theorem text_of_resolve (h : resolve s = .ok (.text t)) : t = s := by
  unfold resolve at h
  split at h
  · cases h
  · split at h
    · cases h
    · split at h
      · unfold ofInt at h
        split at h <;> cases h
      · split at h
        · cases h
        · cases h
          rfl

/-- **What is written plainly means the text that it is.** -/
theorem resolve_plain (style : styleOf s = .plain) : resolve s = .ok (.text s) := by
  obtain ⟨clear, _⟩ := plainText_of_style style
  obtain ⟨_, clear⟩ := Bool.or_eq_false_iff.mp clear
  split at clear
  · rename_i found
    rw [found, text_of_resolve found]
  · cases clear

/-- A text means itself in whatever style it is written. -/
theorem scalarContent_text (s : String) :
    scalarContent none (readStyle (styleOf s)) s = .ok (.text s) := by
  cases style : styleOf s with
  | plain => exact resolve_plain style
  | _ => rfl

/-- **Two texts are not quoted alike**: what stands between the quotes is read back. -/
theorem quote_injective (h : Json.quote s = Json.quote t) : s = t := by
  have read (s : String) :
      Json.readString [] ((Json.quote s).toList.drop 1) = some (s, []) := by
    rw [Json.quote, String.toList_ofList]
    exact (Json.readString_escaped s.toList [] []).trans (by rw [List.reverse_nil, List.nil_append,
      String.ofList_toList])
  have same := (read s).symm.trans ((congrArg _ (by rw [h])).trans (read t))
  exact congrArg Prod.fst (Option.some.inj same)

end Texts

/-! ## 2. What nodes mean -/

/-- An entry under a text that is not yet a key. -/
theorem pairContents_cons {k : String} {c : Content} {key value : Node} {seen : List String}
    {rest : List (Node × Node)} {cs : List (Content × Content)} (text : key.content? = .ok (.text k))
    (fresh : Json.quote k ∉ seen) (content : value.content? = .ok c)
    (inside : pairContents (Json.quote k :: seen) rest = .ok cs) :
    pairContents seen ((key, value) :: rest) = .ok ((.text k, c) :: cs) := by
  have print : (Content.text k).fingerprint = Json.quote k := by rw [Content.fingerprint]
  rw [pairContents, text]
  dsimp only [bind, Except.bind]
  rw [print, if_neg fresh, content]
  dsimp only
  rw [inside]
  rfl

mutual

/-- **The node of a value means the value.** -/
theorem means_value : ∀ v : Value, Legible v →
    ∃ c, (composed v).node.content? = .ok c ∧ c.toValue? = some v
  | .null, _ => ⟨_, rfl, rfl⟩
  | .bool true, _ => ⟨_, rfl, rfl⟩
  | .bool false, _ => ⟨_, rfl, rfl⟩
  | .str s, _ => ⟨_, scalarContent_text s, rfl⟩
  | .arr items, legible => by
      obtain ⟨cs, inside, back⟩ := means_items items legible
      refine ⟨.list cs, ?_, ?_⟩
      · rw [composed, Composed.list, Node.content?, inside]
        rfl
      · rw [Content.toValue?, back]
        rfl
  | .obj entries, legible => by
      obtain ⟨cs, inside, back⟩ := means_entries entries [] legible.1 legible.2 nofun
      refine ⟨.mapping cs, ?_, ?_⟩
      · rw [composed, Composed.mapping, Node.content?, inside]
        rfl
      · rw [Content.toValue?, back [] nofun]
        rfl
termination_by structural v => v

/-- So do those of items. -/
theorem means_items : ∀ items : List Value, LegibleItems items →
    ∃ cs, contents ((composedItems items).map Composed.node) = .ok cs ∧ values? cs = some items
  | [], _ => ⟨[], rfl, rfl⟩
  | v :: rest, legible => by
      obtain ⟨c, content, value⟩ := means_value v legible.1
      obtain ⟨cs, inside, back⟩ := means_items rest legible.2
      refine ⟨c :: cs, ?_, ?_⟩
      · rw [composedItems, List.map_cons, contents, content, inside]
        rfl
      · rw [values?, value, back]
        rfl
termination_by structural items => items

/-- So do those of entries, under keys that have not come before. -/
theorem means_entries : ∀ (entries : List (String × Value)) (seen : List String),
    (entries.map Prod.fst).Nodup → LegibleEntries entries →
      (∀ k ∈ entries.map Prod.fst, Json.quote k ∉ seen) →
      ∃ cs, pairContents seen ((composedEntries entries).map fun (k, v) => (k.node, v.node)) = .ok cs ∧
        ∀ found : List (String × Value),
          (∀ k ∈ entries.map Prod.fst, k ∉ found.map Prod.fst) →
            pairValues? found cs = some (found ++ entries)
  | [], _, _, _, _ => ⟨[], rfl, fun found _ => by rw [List.append_nil]; rfl⟩
  | (k, v) :: rest, seen, once, legible, fresh => by
      obtain ⟨word, first, others⟩ := legible
      obtain ⟨c, content, value⟩ := means_value v first
      rw [List.map_cons, List.nodup_cons] at once
      rw [List.map_cons, List.forall_mem_cons] at fresh
      have unseen : ∀ key ∈ rest.map Prod.fst, Json.quote key ∉ Json.quote k :: seen := by
        intro key mem again
        rcases List.mem_cons.mp again with same | before
        · exact once.1 (quote_injective same ▸ mem)
        · exact fresh.2 key mem before
      obtain ⟨cs, inside, back⟩ := means_entries rest (Json.quote k :: seen) once.2 others unseen
      have key : (Composed.scalar none .plain k).node.content? = .ok (.text k) := resolve_plain word.plain
      refine ⟨(.text k, c) :: cs, ?_, fun found new => ?_⟩
      · exact pairContents_cons key fresh.1 content inside
      · rw [List.map_cons, List.forall_mem_cons] at new
        have apart : ∀ key ∈ rest.map Prod.fst, key ∉ (found ++ [(k, v)]).map Prod.fst := by
          intro key mem again
          rw [List.map_append, List.mem_append] at again
          rcases again with before | last
          · exact new.2 key mem before
          · exact once.1 (List.mem_singleton.mp last ▸ mem)
        rw [pairValues?, value]
        dsimp only [Content.key?, bind, Option.bind]
        rw [insertEntry_of_fresh new.1, back _ apart, List.append_assoc]
        rfl
termination_by structural entries => entries

end

/-- **A value that its node means** where a shape is wanted. -/
def Fits (shape : Shape) (v : Value) : Prop := (composed v).node.as shape = some v

section Scalars

variable {s : String} {otherwise : Value}

/-- What is written plainly is not what spells null. -/
theorem unlessNull_text (s : String) (otherwise : Value) :
    unlessNull none (readStyle (styleOf s)) s otherwise = otherwise := by
  cases style : styleOf s with
  | plain =>
      obtain ⟨clear, _⟩ := plainText_of_style style
      have no_null : ¬(s = "" ∨ spellsNull s = true) := by
        intro null
        rw [isAmbiguous, resolve, if_pos null, Bool.or_true] at clear
        cases clear
      rw [readStyle, unlessNull, if_neg (by simp), if_neg (by simp), if_neg (by simp [no_null])]
  | _ => rfl

theorem fits_text (s : String) : Fits .text (.str s) := rfl

theorem fits_choice (s : String) : Fits .choice (.str s) := rfl

theorem fits_optionalText (o : Option String) : Fits .optionalText (.ofText? o) := by
  cases o with
  | none => rfl
  | some s => exact congrArg some (unlessNull_text s _)

theorem fits_optionalChoice (o : Option String) : Fits .optionalChoice (.ofText? o) := by
  cases o with
  | none => rfl
  | some s => exact congrArg some (unlessNull_text s _)

theorem fits_switch (b : Bool) : Fits .switch (.bool b) := by
  cases b <;> rfl

end Scalars

/-- Entries whose values are wanted where their keys are. -/
def FitsEntries (fields : List (String × Shape)) (es : List (String × Value)) : Prop :=
  ∀ e ∈ es, ∃ shape, fields.lookup e.1 = some shape ∧ Fits shape e.2

section Records

variable {fields : List (String × Shape)} {e : String × Value} {es : List (String × Value)} {shape : Shape}

theorem entriesAs_wanted (fits : FitsEntries fields es) :
    entriesAs fields ((composedEntries es).map fun (k, v) => (k.node, v.node)) = some es := by
  induction es with
  | nil => rfl
  | cons e es ih =>
      obtain ⟨k, v⟩ := e
      obtain ⟨⟨shape, known, meant⟩, later⟩ := List.forall_mem_cons.mp fits
      rw [composedEntries, List.map_cons, Composed.scalar, entriesAs, known]
      dsimp only
      rw [meant, ih later]
      rfl

/-- **A mapping means its entries** where each of them is wanted. -/
theorem fits_record (fits : FitsEntries fields es) : Fits (.record fields) (.obj es) := by
  unfold Fits
  rw [composed, Composed.mapping, Node.as]
  dsimp only
  rw [entriesAs_wanted fits]
  rfl

/-- **Documents are read back** where every value is one that its scalar means. -/
theorem readShaped_render (legible : Legible (.obj (e :: es)))
    (worded : (Value.obj (e :: es)).Worded maxDepth) (fits : Fits shape (.obj (e :: es))) :
    readShaped shape (render (.obj (e :: es))) = .ok (.obj (e :: es)) := by
  unfold readShaped
  rw [Node.read?_render legible worded]
  dsimp only [Except.mapError, bind, Except.bind]
  rw [fits]
  rfl

end Records

end SchemaPages.Yaml
