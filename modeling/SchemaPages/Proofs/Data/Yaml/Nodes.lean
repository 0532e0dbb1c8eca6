import SchemaPages.Proofs.Data.Json
import SchemaPages.Proofs.Data.Yaml.Texts
/-!
# Tokens of values are composed to nodes

The tokens of a value make a node of the same shape, with no tags, anchors or aliases. Every token lets
composing go on by four steps at most, which bounds the number of them that is needed.

* `composed`: the node of a value, with `shallow_composed`: how far it reaches;
* `Compose.Composes`: what tokens are composed to, and what is left behind them;
* `Compose.composes_value`: the tokens of a value;
* `Node.read?_render`: the node of a document.
-/

namespace SchemaPages.Yaml

/-! ## 1. Nodes of values -/

mutual

/-- **The node of a value**, with what is known of it. -/
def composed : Value → Composed
  | .arr items => .list none (composedItems items)
  | .obj entries => .mapping none (composedEntries entries)
  | v => .scalar none (leafScalar v).1 (leafScalar v).2

/-- The nodes of items. -/
def composedItems : List Value → List Composed
  | [] => []
  | v :: rest => composed v :: composedItems rest

/-- The nodes of entries. -/
def composedEntries : List (String × Value) → List (Composed × Composed)
  | [] => []
  | (k, v) :: rest => (.scalar none .plain k, composed v) :: composedEntries rest

end

/-- **A node that reaches no further than given**, and expands no alias. -/
structure Shallow (n : Nat) (c : Composed) : Prop where
  depth : c.depth ≤ n
  aliases : c.aliases = 0

section Shallow

variable {n : Nat} {items : List Composed} {entries : List (Composed × Composed)}

theorem shallow_scalar (n : Nat) (tag : Option String) (style : ScalarStyle) (text : String) :
    Shallow n (.scalar tag style text) := ⟨Nat.zero_le n, rfl⟩

/-- A list is one level deeper than what is in it. -/
theorem depth_list_le (tag : Option String) (h : ∀ c ∈ items, c.depth ≤ n) :
    (Composed.list tag items).depth ≤ n + 1 := by
  have within : ∀ d ≤ n, items.foldl (fun d c => max d c.depth) d ≤ n := by
    induction items with
    | nil => exact fun _ shallow => shallow
    | cons c items ih =>
        rw [List.forall_mem_cons] at h
        exact fun d shallow => ih h.2 _ (Nat.max_le.mpr ⟨shallow, h.1⟩)
  exact Nat.succ_le_succ (within 0 (Nat.zero_le n))

/-- Without aliases in it a list has none. -/
theorem aliases_list (tag : Option String) (h : ∀ c ∈ items, c.aliases = 0) :
    (Composed.list tag items).aliases = 0 := by
  show items.foldl (fun n c => n + c.aliases) 0 = 0
  induction items with
  | nil => rfl
  | cons c items ih =>
      rw [List.forall_mem_cons] at h
      rw [List.foldl_cons, h.1]
      exact ih h.2

theorem shallow_list (tag : Option String) (h : ∀ c ∈ items, Shallow n c) :
    Shallow (n + 1) (.list tag items) :=
  ⟨depth_list_le tag fun c mem => (h c mem).depth, aliases_list tag fun c mem => (h c mem).aliases⟩

/-- A mapping is one level deeper than what is in it. -/
theorem depth_mapping_le (tag : Option String) (h : ∀ e ∈ entries, e.1.depth ≤ n ∧ e.2.depth ≤ n) :
    (Composed.mapping tag entries).depth ≤ n + 1 := by
  have within : ∀ d ≤ n, entries.foldl (fun d e => max d (max e.1.depth e.2.depth)) d ≤ n := by
    induction entries with
    | nil => exact fun _ shallow => shallow
    | cons e entries ih =>
        rw [List.forall_mem_cons] at h
        intro d shallow
        exact ih h.2 _ (Nat.max_le.mpr ⟨shallow, Nat.max_le.mpr h.1⟩)
  exact Nat.succ_le_succ (within 0 (Nat.zero_le n))

/-- Without aliases in it a mapping has none. -/
theorem aliases_mapping (tag : Option String) (h : ∀ e ∈ entries, e.1.aliases = 0 ∧ e.2.aliases = 0) :
    (Composed.mapping tag entries).aliases = 0 := by
  show entries.foldl (fun n e => n + e.1.aliases + e.2.aliases) 0 = 0
  induction entries with
  | nil => rfl
  | cons e entries ih =>
      rw [List.forall_mem_cons] at h
      rw [List.foldl_cons, h.1.1, h.1.2]
      exact ih h.2

theorem shallow_mapping (tag : Option String) (h : ∀ e ∈ entries, Shallow n e.1 ∧ Shallow n e.2) :
    Shallow (n + 1) (.mapping tag entries) :=
  ⟨depth_mapping_le tag fun e mem => ⟨(h e mem).1.depth, (h e mem).2.depth⟩,
    aliases_mapping tag fun e mem => ⟨(h e mem).1.aliases, (h e mem).2.aliases⟩⟩

end Shallow

mutual

/-- **The node of a value** reaches as far as the value. -/
theorem shallow_composed : ∀ (v : Value) {room : Nat}, v.Worded room → Shallow room (composed v)
  | .null, room, _ => shallow_scalar room _ _ _
  | .bool _, room, _ => shallow_scalar room _ _ _
  | .str _, room, _ => shallow_scalar room _ _ _
  | .num _, room, _ => shallow_scalar room _ _ _
  | .arr _, 0, worded => nomatch worded
  | .obj _, 0, worded => nomatch worded
  | .arr items, _ + 1, worded => shallow_list none (shallow_items items worded)
  | .obj entries, _ + 1, worded => shallow_mapping none (shallow_entries entries worded)
termination_by structural v => v

/-- So do those of items. -/
theorem shallow_items : ∀ (items : List Value) {room : Nat}, WordedItems room items →
    ∀ c ∈ composedItems items, Shallow room c
  | [], _, _ => List.forall_mem_nil _
  | v :: rest, _, worded =>
      List.forall_mem_cons.mpr ⟨shallow_composed v worded.1, shallow_items rest worded.2⟩
termination_by structural items => items

/-- So do those of entries. -/
theorem shallow_entries : ∀ (entries : List (String × Value)) {room : Nat}, WordedEntries room entries →
    ∀ e ∈ composedEntries entries, Shallow room e.1 ∧ Shallow room e.2
  | [], _, _ => List.forall_mem_nil _
  | (_, v) :: rest, room, worded =>
      List.forall_mem_cons.mpr
        ⟨⟨shallow_scalar room _ _ _, shallow_composed v worded.1⟩, shallow_entries rest worded.2⟩
termination_by structural entries => entries

end

/-! ## 2. Composing -/

namespace Compose

variable {α : Type} {tokens middle rest : List Token} {bound : Nat} {indentless : Bool}

/-- **What tokens are composed to**, and what is left behind them. Only the count of what has begun or
    ended is another than before. -/
def Composes (m : Compose α) (tokens : List Token) (a : α) (rest : List Token) : Prop :=
  ∀ c : Composer, ∃ n, m.run { c with rest := tokens } = .ok (a, { c with rest, events := n })

theorem composes_scalar (style : ScalarStyle) (text : String) (bound : Nat) (rest : List Token) :
    Composes (node true indentless (bound + 2)) (.scalar style text :: rest) (.scalar none style text)
      rest := fun _ => ⟨_, rfl⟩

theorem composes_noItems (bound : Nat) (rest : List Token) :
    Composes (node true indentless (bound + 3)) (.openList :: .closeList :: rest) (.list none []) rest :=
  fun _ => ⟨_, rfl⟩

theorem composes_noEntries (bound : Nat) (rest : List Token) :
    Composes (node true indentless (bound + 3)) (.openMapping :: .closeMapping :: rest)
      (.mapping none []) rest := fun _ => ⟨_, rfl⟩

/-- One is composed behind the other. -/
theorem composes_bind {β : Type} {m : Compose α} {next : α → Compose β} {a : α} {b : β}
    (first : Composes m tokens a middle) (second : Composes (next a) middle b rest) :
    Composes (m >>= next) tokens b rest := by
  intro c
  obtain ⟨k, first⟩ := first c
  obtain ⟨n, second⟩ := second { c with events := k }
  refine ⟨n, ?_⟩
  rw [StateT.run_bind, first]
  exact second

theorem composes_map {β : Type} {m : Compose α} {a : α} (f : α → β) (inside : Composes m tokens a rest) :
    Composes (do return f (← m)) tokens (f a) rest :=
  composes_bind inside fun c => ⟨c.events, rfl⟩

theorem composes_cons {β : Type} {m : Compose α} {others : Compose (List β)} {a : α} {l : List β}
    (f : α → β) (first : Composes m tokens a middle) (later : Composes others middle l rest) :
    Composes (do let a ← m; return f a :: (← others)) tokens (f a :: l) rest :=
  composes_bind first (composes_map (f a :: ·) later)

/-- What composing goes on with behind a token. -/
theorem composes_behind {m next : Compose α} {a : α} {t : Token} (k : Nat)
    (step : ∀ c : Composer, m.run { c with rest := t :: tokens } =
      next.run { c with rest := tokens, events := c.events + k })
    (later : Composes next tokens a rest) : Composes m (t :: tokens) a rest := by
  intro c
  obtain ⟨n, later⟩ := later { c with events := c.events + k }
  exact ⟨n, (step c).trans later⟩

/-- **A block is composed** of its entries. -/
theorem composes_block {entries : List (Composed × Composed)}
    (inside : Composes (blockEntries bound) tokens entries rest) :
    Composes (node true indentless (bound + 2)) (.blockMapping :: tokens) (.mapping none entries) rest :=
  composes_behind 2 (fun _ => rfl) (composes_map (Composed.mapping none) inside)

/-- **A block is composed** of its items. -/
theorem composes_list {items : List Composed} (inside : Composes (blockItems bound) tokens items rest) :
    Composes (node true indentless (bound + 2)) (.blockList :: tokens) (.list none items) rest :=
  composes_behind 2 (fun _ => rfl) (composes_map (Composed.list none) inside)

/-- A list behind a key is composed of its dashes. -/
theorem composes_dashes {items : List Composed}
    (inside : Composes (dashes bound) (.dash :: tokens) items rest) :
    Composes (node true true (bound + 2)) (.dash :: tokens) (.list none items) rest := by
  intro c
  obtain ⟨n, whole⟩ := composes_map (Composed.list none) inside { c with events := c.events + 2 }
  exact ⟨n, whole⟩

/-- **What begins a node** is none of the tokens in front of which a node is left out. -/
theorem composes_unless {stops : List (Option Token)} {a : Composed}
    (begins : beginsNode true indentless tokens.head? = true)
    (never : ∀ o ∈ stops, beginsNode true indentless o = false)
    (inside : Composes (node true indentless bound) tokens a rest) :
    Composes (nodeUnless stops true indentless (bound + 1)) tokens a rest := by
  have apart : stops.contains tokens.head? = false := by
    rw [List.contains_eq_mem, decide_eq_false_iff_not]
    intro mem
    rw [never _ mem] at begins
    cases begins
  intro c
  show ∃ n, (if stops.contains tokens.head? = true then empty none else node true indentless bound :
    Compose Composed).run { c with rest := tokens } = _
  rw [apart, if_neg Bool.false_ne_true]
  exact inside c

/-- The tokens in front of which an item of a block, an item behind a key, or an entry is left out. -/
def itemStops : List (Option Token) := [some .dash, some .blockEnd]

@[inherit_doc itemStops]
def dashStops : List (Option Token) := [some .dash, some .key, some .value, some .blockEnd]

@[inherit_doc itemStops]
def entryStops : List (Option Token) := [some .key, some .value, some .blockEnd]

section Parts

variable {v : Composed} {items : List Composed} {entries : List (Composed × Composed)}

theorem composes_item (value : Composes (nodeUnless itemStops true false bound) tokens v middle)
    (others : Composes (blockItems bound) middle items rest) :
    Composes (blockItems (bound + 1)) (.dash :: tokens) (v :: items) rest :=
  composes_behind 0 (fun _ => rfl) (composes_cons id value others)

theorem composes_dash (value : Composes (nodeUnless dashStops true false bound) tokens v middle)
    (others : Composes (dashes bound) middle items rest) :
    Composes (dashes (bound + 1)) (.dash :: tokens) (v :: items) rest :=
  composes_behind 0 (fun _ => rfl) (composes_cons id value others)

/-- **An entry of a block** is composed of its key and its value. -/
theorem composes_entry (key : String)
    (value : Composes (nodeUnless entryStops true true (bound + 3)) tokens v middle)
    (others : Composes (blockEntries (bound + 3)) middle entries rest) :
    Composes (blockEntries (bound + 4)) (.key :: .scalar .plain key :: .value :: tokens)
      ((.scalar none .plain key, v) :: entries) rest := by
  intro c
  obtain ⟨n, whole⟩ := composes_cons (Prod.mk (Composed.scalar none .plain key)) value others
    { c with events := c.events + 1 }
  exact ⟨n, whole⟩

theorem composes_lastItem (bound : Nat) (rest : List Token) :
    Composes (blockItems (bound + 1)) (.blockEnd :: rest) [] rest := fun _ => ⟨_, rfl⟩

theorem composes_lastEntry (bound : Nat) (rest : List Token) :
    Composes (blockEntries (bound + 1)) (.blockEnd :: rest) [] rest := fun _ => ⟨_, rfl⟩

/-- Dashes end in front of what is none. -/
theorem composes_lastDash (bound : Nat) (apart : rest.head? ≠ some .dash) :
    Composes (dashes (bound + 1)) rest [] rest := by
  intro c
  refine ⟨c.events, ?_⟩
  cases rest with
  | nil => rfl
  | cons t rest => cases t <;> first | rfl | exact absurd rfl apart

end Parts

/-- The tokens of a value begin a node, where a list behind a key may have no mark. -/
theorem begins_valueTokens (deeper : Bool) (v : Value) (rest : List Token) :
    beginsNode true (!deeper) (valueTokens deeper v ++ rest).head? = true := by
  cases v with
  | arr l =>
      cases l with
      | nil => rfl
      | cons v vs => cases deeper <;> rfl
  | obj l => cases l <;> rfl
  | _ => rfl

mutual

/-- **The tokens of a value are composed to its node**, given four steps for each. Behind a list that has
    no mark no other dash may stand. -/
theorem composes_value : ∀ (v : Value) (deeper : Bool) {bound : Nat} {rest : List Token},
    4 * (valueTokens deeper v).length + 3 ≤ bound → (deeper = false → rest.head? ≠ some .dash) →
      Composes (node true (!deeper) bound) (valueTokens deeper v ++ rest) (composed v) rest
  | .null, deeper, bound, rest, enough, _
  | .bool _, deeper, bound, rest, enough, _
  | .num _, deeper, bound, rest, enough, _
  | .str _, deeper, bound, rest, enough, _ => by
      obtain ⟨b, rfl⟩ := Nat.exists_eq_add_of_le' (show 2 ≤ bound by omega)
      exact composes_scalar _ _ b rest
  | .arr [], deeper, bound, rest, enough, _ => by
      obtain ⟨b, rfl⟩ := Nat.exists_eq_add_of_le' (show 3 ≤ bound by omega)
      exact composes_noItems b rest
  | .obj [], deeper, bound, rest, enough, _ => by
      obtain ⟨b, rfl⟩ := Nat.exists_eq_add_of_le' (show 3 ≤ bound by omega)
      exact composes_noEntries b rest
  | .arr (v :: vs), true, bound, rest, enough, _ => by
      obtain ⟨b, rfl⟩ := Nat.exists_eq_add_of_le' (show 2 ≤ bound by omega)
      simp only [valueTokens, if_true, List.length_cons, List.length_append] at enough
      have inside : Composes (blockItems b) _ _ rest := composes_items (v :: vs) (by omega) rest
      have whole : Composes (node true false (b + 2)) _ _ rest := composes_list inside
      simpa [valueTokens, composed] using whole
  | .arr (v :: vs), false, bound, rest, enough, apart => by
      obtain ⟨b, rfl⟩ := Nat.exists_eq_add_of_le' (show 2 ≤ bound by omega)
      simp only [valueTokens, Bool.false_eq_true, if_false] at enough
      have inside : Composes (dashes b) _ _ rest := composes_dashItems (v :: vs) (by omega) (apart rfl)
      exact composes_dashes inside
  | .obj (e :: es), deeper, bound, rest, enough, _ => by
      obtain ⟨b, rfl⟩ := Nat.exists_eq_add_of_le' (show 2 ≤ bound by omega)
      simp only [valueTokens, List.length_cons, List.length_append] at enough
      have inside : Composes (blockEntries b) _ _ rest := composes_entries (e :: es) (by omega) rest
      have whole : Composes (node true (!deeper) (b + 2)) _ _ rest := composes_block inside
      simpa [valueTokens, composed] using whole
termination_by structural v => v

/-- The tokens of items, up to the end of their block. -/
theorem composes_items : ∀ (vs : List Value) {bound : Nat}, 4 * (itemTokens vs).length + 1 ≤ bound →
    ∀ rest, Composes (blockItems bound) (itemTokens vs ++ .blockEnd :: rest) (composedItems vs) rest
  | [], bound, enough, rest => by
      obtain ⟨b, rfl⟩ := Nat.exists_eq_add_of_le' (show 1 ≤ bound by omega)
      exact composes_lastItem b rest
  | v :: vs, bound, enough, rest => by
      simp only [itemTokens, List.length_cons, List.length_append] at enough
      obtain ⟨b, rfl⟩ := Nat.exists_eq_add_of_le' (show 2 ≤ bound by omega)
      have others : Composes (blockItems (b + 1)) _ _ rest := composes_items vs (by omega) rest
      have value : Composes (node true false b) _ _ (itemTokens vs ++ .blockEnd :: rest) :=
        composes_value v true (by omega) nofun
      rw [itemTokens, List.cons_append, List.append_assoc]
      exact composes_item (composes_unless (begins_valueTokens true v _) (by decide) value) others
termination_by structural vs => vs

/-- The tokens of items without a mark, up to what is no dash. -/
theorem composes_dashItems : ∀ (vs : List Value) {bound : Nat} {rest : List Token},
    4 * (itemTokens vs).length + 1 ≤ bound → rest.head? ≠ some .dash →
      Composes (dashes bound) (itemTokens vs ++ rest) (composedItems vs) rest
  | [], bound, rest, enough, apart => by
      obtain ⟨b, rfl⟩ := Nat.exists_eq_add_of_le' (show 1 ≤ bound by omega)
      exact composes_lastDash b apart
  | v :: vs, bound, rest, enough, apart => by
      simp only [itemTokens, List.length_cons, List.length_append] at enough
      obtain ⟨b, rfl⟩ := Nat.exists_eq_add_of_le' (show 2 ≤ bound by omega)
      have others : Composes (dashes (b + 1)) _ _ rest := composes_dashItems vs (by omega) apart
      have value : Composes (node true false b) _ _ (itemTokens vs ++ rest) :=
        composes_value v true (by omega) nofun
      rw [itemTokens, List.cons_append, List.append_assoc]
      exact composes_dash (composes_unless (begins_valueTokens true v _) (by decide) value) others
termination_by structural vs => vs

/-- The tokens of entries, up to the end of their block. -/
theorem composes_entries : ∀ (es : List (String × Value)) {bound : Nat},
    4 * (entryTokens es).length + 1 ≤ bound →
      ∀ rest, Composes (blockEntries bound) (entryTokens es ++ .blockEnd :: rest) (composedEntries es) rest
  | [], bound, enough, rest => by
      obtain ⟨b, rfl⟩ := Nat.exists_eq_add_of_le' (show 1 ≤ bound by omega)
      exact composes_lastEntry b rest
  | (k, v) :: es, bound, enough, rest => by
      simp only [entryTokens, List.length_cons, List.length_append] at enough
      obtain ⟨b, rfl⟩ := Nat.exists_eq_add_of_le' (show 4 ≤ bound by omega)
      have others : Composes (blockEntries (b + 3)) _ _ rest := composes_entries es (by omega) rest
      have apart : (entryTokens es ++ .blockEnd :: rest).head? ≠ some .dash := by
        rcases es with _ | ⟨⟨k, v⟩, es⟩ <;> exact nofun
      have value : Composes (node true true (b + 2)) _ _ (entryTokens es ++ .blockEnd :: rest) :=
        composes_value v false (by omega) fun _ => apart
      rw [entryTokens, List.cons_append, List.cons_append, List.cons_append, List.append_assoc]
      exact composes_entry k (composes_unless (begins_valueTokens false v _) (by decide) value) others
termination_by structural es => es

end

end Compose

/-! ## 3. Documents -/

section Documents

variable {e : String × Value} {es : List (String × Value)}

/-- **The node of a document** is the one of its mapping. -/
theorem ofTokens?_mapping (worded : (Value.obj (e :: es)).Worded maxDepth) :
    Node.ofTokens? (valueTokens true (.obj (e :: es))) = .ok (some (composed (.obj (e :: es))).node) := by
  let bound := 4 * (valueTokens true (.obj (e :: es))).length + 4
  have inside : Compose.Composes (Compose.node true false bound) (valueTokens true (.obj (e :: es)) ++ []) _
      [] := Compose.composes_value (.obj (e :: es)) true (Nat.le_succ _) nofun
  obtain ⟨n, node⟩ := inside { rest := [] }
  have document : (Compose.document bound).run { rest := valueTokens true (.obj (e :: es)) } =
      .ok (some (composed (.obj (e :: es))), { rest := [], events := n }) := by
    show (do
      let composed ← Compose.node true false bound
      Compose.skipEnds bound
      if (← Compose.peek).isSome then throw .severalDocuments
      return some composed : Compose _).run { rest := valueTokens true (.obj (e :: es)) } = _
    rw [List.append_nil] at node
    rw [StateT.run_bind]
    show Except.bind ((Compose.node true false bound).run
      { rest := valueTokens true (.obj (e :: es)) }) _ = _
    rw [node]
    rfl
  have reach := shallow_composed _ worded
  have shallow : ¬maxDepth < (composed (.obj (e :: es))).depth := Nat.not_lt.mpr reach.depth
  have no_aliases : ¬100 * n < (composed (.obj (e :: es))).aliases := by
    rw [reach.aliases]
    exact Nat.not_lt_zero _
  unfold Node.ofTokens?
  rw [show 4 * (valueTokens true (.obj (e :: es))).length + 4 = bound from rfl, document]
  show (do
    if maxDepth < (composed (.obj (e :: es))).depth then throw .tooDeep
    if 100 * n < (composed (.obj (e :: es))).aliases then throw .tooManyAliases
    return some (composed (.obj (e :: es))).node : Except SyntaxError (Option Node)) = _
  rw [if_neg shallow, if_neg no_aliases]
  rfl

/-- **A document is read as the node of its mapping.** -/
theorem Node.read?_render (legible : Legible (.obj (e :: es)))
    (worded : (Value.obj (e :: es)).Worded maxDepth) :
    Node.read? (render (.obj (e :: es))) = .ok (some (composed (.obj (e :: es))).node) := by
  unfold Node.read?
  rw [tokens_render legible]
  exact ofTokens?_mapping worded

end Documents

end SchemaPages.Yaml
