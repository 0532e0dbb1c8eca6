import SchemaPages.Proofs.Data.Yaml.Leaves
/-!
# Values are cut into tokens

Lists and mappings are written as blocks of lines, in each of which the tokens of an item or of an entry
stand. A list behind a key lies no deeper than the key, so that no block begins or ends with it.

* `Legible`: values without numbers, whose keys stand plainly;
* `valueTokens`: the tokens of a value;
* `Scanner.scans_inline`, `Scanner.scans_value`: a value behind a dash, and one behind a colon;
* `Scanner.awaits_items`, `Scanner.awaits_entries`: the lines of a list and of a mapping;
* `Scanner.run_mapping`: the tokens of a document.
-/

namespace SchemaPages.Yaml

/-! ## 1. Values and their tokens -/

mutual

/-- **A value without numbers, whose keys stand plainly**, no two alike in one mapping. -/
def Legible : Value → Prop
  | .num _ => False
  | .arr items => LegibleItems items
  | .obj entries => (entries.map Prod.fst).Nodup ∧ LegibleEntries entries
  | _ => True

/-- The items of such a value. -/
def LegibleItems : List Value → Prop
  | [] => True
  | v :: rest => Legible v ∧ LegibleItems rest

/-- The entries of such a value. -/
def LegibleEntries : List (String × Value) → Prop
  | [] => True
  | (k, v) :: rest => PlainKey k ∧ Legible v ∧ LegibleEntries rest

end

section Legible

variable {items : List Value} {entries : List (String × Value)}

theorem legible_of_flat {v : Value} (flat : v.Flat) : Legible v := by
  cases v <;> first | exact trivial | cases flat

theorem legible_mapping (once : (entries.map Prod.fst).Nodup)
    (words : ∀ k ∈ entries.map Prod.fst, PlainKey k) (values : ∀ e ∈ entries, Legible e.2) :
    Legible (.obj entries) := by
  refine ⟨once, ?_⟩
  clear once
  induction entries with
  | nil => exact trivial
  | cons e rest ih =>
      rw [List.map_cons, List.forall_mem_cons] at words
      rw [List.forall_mem_cons] at values
      exact ⟨words.1, values.1, ih words.2 values.2⟩

end Legible

mutual

/-- The tokens of a value. A list that lies deeper than what is in front of it is marked as a block. -/
def valueTokens (deeper : Bool) : Value → List Token
  | .arr [] => [.openList, .closeList]
  | .arr (v :: rest) =>
    if deeper then .blockList :: (itemTokens (v :: rest) ++ [.blockEnd]) else itemTokens (v :: rest)
  | .obj [] => [.openMapping, .closeMapping]
  | .obj (e :: rest) => .blockMapping :: (entryTokens (e :: rest) ++ [.blockEnd])
  | v => [.scalar (leafScalar v).1 (leafScalar v).2]

/-- The tokens of items. -/
def itemTokens : List Value → List Token
  | [] => []
  | v :: rest => .dash :: (valueTokens true v ++ itemTokens rest)

/-- The tokens of entries. -/
def entryTokens : List (String × Value) → List Token
  | [] => []
  | (k, v) :: rest => .key :: .scalar .plain k :: .value :: (valueTokens false v ++ entryTokens rest)

end

/-- What is written of a value behind the colon of its key. -/
def behindColon (indent : Nat) : Value → List Char
  | .arr (v :: rest) => '\n' :: items indent (v :: rest)
  | .obj (e :: rest) => '\n' :: entries (indent + 2) (e :: rest)
  | v => ' ' :: leafLine indent v

section Written

variable {key : String}

theorem keyText_plain (word : PlainKey key) (indent : Nat) :
    keyText indent key = key.toList ++ [':'] := by
  rw [keyText, if_pos word.simple, textLine_plain word.plain, List.dropLast_concat]

theorem entry_plain (word : PlainKey key) (indent : Nat) (v : Value) :
    entry indent key v = key.toList ++ ':' :: behindColon indent v := by
  have simple : isSimpleKey key = true := word.simple
  cases v with
  | arr l => cases l <;> simp [entry, keyText_plain word, simple, behindColon, items]
  | obj l =>
      rcases l with _ | ⟨⟨k, v⟩, es⟩ <;> simp [entry, keyText_plain word, simple, behindColon, entries]
  | _ => simp [entry, keyText_plain word, simple, behindColon]

theorem entries_cons (word : PlainKey key) (indent : Nat) (v : Value) (es : List (String × Value)) :
    entries indent ((key, v) :: es) =
      blanks indent ++ (key.toList ++ ':' :: (behindColon indent v ++ entries indent es)) := by
  rw [entries, entry_plain word]
  simp

theorem items_cons (indent : Nat) (v : Value) (vs : List Value) :
    items indent (v :: vs) = blanks indent ++ '-' :: (inlineValue indent v ++ items indent vs) := by
  rw [items]
  simp

theorem blank_behindColon (indent : Nat) (v : Value) (cs : List Char) :
    blankNext (behindColon indent v ++ cs) = true := by
  cases v with
  | arr l => cases l <;> rfl
  | obj l => cases l <;> rfl
  | _ => rfl

theorem inlineValue_list (indent : Nat) (v : Value) (vs : List Value) (cs : List Char) :
    inlineValue indent (.arr (v :: vs)) ++ cs =
      ' ' :: '-' :: (inlineValue (indent + 2) v ++ (items (indent + 2) vs ++ cs)) := by
  simp [inlineValue]

theorem inlineValue_mapping (indent : Nat) (k : String) (v : Value) (es : List (String × Value))
    (cs : List Char) : inlineValue indent (.obj ((k, v) :: es)) ++ cs =
      ' ' :: (entry (indent + 2) k v ++ (entries (indent + 2) es ++ cs)) := by
  simp [inlineValue]

/-- A blank stands behind a dash. -/
theorem inlineValue_blank (indent : Nat) (v : Value) : ∃ cs, inlineValue indent v = ' ' :: cs := by
  unfold inlineValue
  split <;> exact ⟨_, rfl⟩

end Written

/-! ## 2. Blocks of lines -/

namespace Scanner

variable {tokens out : List Token} {outer : Int} {indents : List Int} {rest text tail : List Char}
  {line column indent limit n : Nat} {key : String} {v : Value}

/-- What is taken from the beginning of a line on, is taken from the end of the line before. -/
theorem scans_behind {keyAllowed : Bool} (later : Awaits limit rest tokens outer indents out) :
    Scans (behind keyAllowed ⟨'\n' :: rest, line, column⟩ tokens outer indents) out := by
  obtain ⟨n, tail, rfl, _, opens, later⟩ := later
  have next := arrives_line (n := n) opens
    (behind keyAllowed ⟨'\n' :: (blanks n ++ tail), line, column⟩ tokens outer indents) rfl rfl rfl
    (by nofun)
  exact scans_of_arrives next (arrives_opens opens true _ _ _ _ _) (later (line + 1))

/-- **A block ends in front of a line that does not lie as deep**, and at the end of the text. -/
theorem awaits_close (within : limit ≤ indent) (ends : limit < indent ∨ rest = [])
    (later : Awaits limit rest (.blockEnd :: tokens) outer indents out) :
    Awaits indent rest tokens indent (outer :: indents) out := by
  obtain ⟨n, tail, rfl, shallow, opens, later⟩ := later
  refine ⟨n, tail, rfl, Nat.le_trans shallow within, opens, fun line => ?_⟩
  refine scans_close opens ?_ (later line)
  rcases ends with less | none
  · exact Or.inl (Nat.lt_of_le_of_lt shallow less)
  · exact Or.inr (List.append_eq_nil_iff.mp none).2

/-- **A line with an item** of the innermost block. -/
theorem awaits_dash
    (later : ∀ line, Scans (start ⟨inlineValue indent v ++ rest, line, indent + 1⟩ (.dash :: tokens) indent
      indents) out) :
    Awaits indent (blanks indent ++ ('-' :: (inlineValue indent v ++ rest))) tokens indent indents out := by
  obtain ⟨cs, blank⟩ := inlineValue_blank indent v
  rw [blank] at later ⊢
  exact ⟨indent, _, rfl, Nat.le_refl _, opens_dash _, fun line => scans_dash_inside (later line)⟩

/-- The first item of a block that begins behind a dash. -/
theorem scans_dash_behind (deeper : outer < ((indent + 2 : Nat) : Int))
    (later : Scans (start ⟨inlineValue (indent + 2) v ++ rest, line, indent + 3⟩
      (.dash :: .blockList :: tokens) ((indent + 2 : Nat) : Int) (outer :: indents)) out) :
    Scans (start ⟨' ' :: '-' :: (inlineValue (indent + 2) v ++ rest), line, indent + 1⟩ tokens outer
      indents) out := by
  obtain ⟨cs, blank⟩ := inlineValue_blank (indent + 2) v
  rw [blank] at later ⊢
  exact scans_of_arrives (arrives_blank (opens_dash _) true line (indent + 1) tokens outer indents)
    (arrives_opens (opens_dash _) true _ _ _ _ _) (scans_dash_opening deeper later)

/-- A value without parts, behind a dash or a colon. -/
theorem scans_leaf {keyAllowed : Bool} (flat : v.Flat) (inner : indent ≤ column)
    (written : text = ' ' :: leafLine indent v)
    (later : Awaits indent rest (.scalar (leafScalar v).1 (leafScalar v).2 :: tokens) indent indents
      out) : Scans (behind keyAllowed ⟨text ++ rest, line, column⟩ tokens indent indents) out := by
  rw [written]
  exact scans_scalar flat inner later

/-- What follows a block inside another one. -/
theorem awaits_inner
    (later : Awaits indent rest (.blockEnd :: tokens) indent indents out) :
    Awaits (indent + 2) rest tokens ((indent + 2 : Nat) : Int) (indent :: indents) out :=
  awaits_close (Nat.le_add_right _ _) (Or.inl (by omega)) later

/-- **A line with an entry** of the innermost block. -/
theorem awaits_key {es : List (String × Value)} (word : PlainKey key)
    (later : ∀ line column, indent ≤ column →
      Scans (behind false ⟨behindColon indent v ++ (entries indent es ++ rest), line, column⟩
        (.value :: .scalar .plain key :: .key :: tokens) indent indents) out) :
    Awaits indent (entries indent ((key, v) :: es) ++ rest) tokens indent indents out := by
  refine ⟨indent, _, by rw [entries_cons word, List.append_assoc], Nat.le_refl _, ?_, fun line => ?_⟩
  · rw [List.append_assoc]
    exact opens_key word _
  · simp only [List.append_assoc, List.cons_append]
    exact scans_key_inside word (blank_behindColon _ _ _) (later _ _ (by omega))

/-- The first entry of a block. -/
theorem scans_entry_opening {es : List (String × Value)} (word : PlainKey key) (deeper : outer < indent)
    (later : ∀ column, indent ≤ column →
      Scans (behind false ⟨behindColon indent v ++ (entries indent es ++ rest), line, column⟩
        (.value :: .scalar .plain key :: .key :: .blockMapping :: tokens) indent (outer :: indents)) out) :
    Scans (start ⟨entry indent key v ++ (entries indent es ++ rest), line, indent⟩ tokens outer indents)
      out := by
  rw [entry_plain word, List.append_assoc, List.cons_append]
  exact scans_key_opening word deeper (blank_behindColon _ _ _) (later _ (by omega))

theorem opens_entry (word : PlainKey key) (indent : Nat) (v : Value) (cs : List Char) :
    Opens (entry indent key v ++ cs) := by
  rw [entry_plain word, List.append_assoc]
  exact opens_key word _

/-- The first entry of a block that begins behind a dash. -/
theorem scans_entry_behind {es : List (String × Value)} (word : PlainKey key)
    (deeper : outer < ((indent + 2 : Nat) : Int))
    (later : ∀ column, indent + 2 ≤ column →
      Scans (behind false
        ⟨behindColon (indent + 2) v ++ (entries (indent + 2) es ++ rest), line, column⟩
        (.value :: .scalar .plain key :: .key :: .blockMapping :: tokens) ((indent + 2 : Nat) : Int)
        (outer :: indents)) out) :
    Scans (start ⟨' ' :: (entry (indent + 2) key v ++ (entries (indent + 2) es ++ rest)), line, indent + 1⟩
      tokens outer indents) out :=
  scans_of_arrives (arrives_blank (opens_entry word _ _ _) true line (indent + 1) tokens outer indents)
    (arrives_opens (opens_entry word _ _ _) true _ _ _ _ _) (scans_entry_opening word deeper later)

/-- A block that begins with a line. -/
theorem awaits_opening {es : List (String × Value)} (word : PlainKey key) (deeper : outer < indent)
    (later : ∀ line column, indent ≤ column →
      Scans (behind false ⟨behindColon indent v ++ (entries indent es ++ rest), line, column⟩
        (.value :: .scalar .plain key :: .key :: .blockMapping :: tokens) indent (outer :: indents)) out) :
    Awaits indent (entries indent ((key, v) :: es) ++ rest) tokens outer indents out := by
  refine ⟨indent, entry indent key v ++ (entries indent es ++ rest), ?_, Nat.le_refl _, ?_, fun line => ?_⟩
  · rw [entries, List.append_assoc, List.append_assoc]
  · exact opens_entry word _ _ _
  · exact scans_entry_opening word deeper (later line)

/-! ## 3. Values -/

mutual

/-- **A value behind a dash.** What has parts begins a block there. -/
theorem scans_inline : ∀ (v : Value) {indent line : Nat} {rest : List Char} {tokens out : List Token}
    {indents : List Int}, Legible v →
      Awaits indent rest ((valueTokens true v).reverse ++ tokens) indent indents out →
      Scans (start ⟨inlineValue indent v ++ rest, line, indent + 1⟩ tokens indent indents) out
  | .null, indent, _, _, _, _, _, _, later =>
      scans_leaf Value.flat_null (Nat.le_succ indent) (by simp [inlineValue]) later
  | .bool b, indent, _, _, _, _, _, _, later =>
      scans_leaf (Value.flat_bool b) (Nat.le_succ indent) (by simp [inlineValue]) later
  | .str s, indent, _, _, _, _, _, _, later =>
      scans_leaf (Value.flat_str s) (Nat.le_succ indent) (by simp [inlineValue]) later
  | .arr [], indent, _, _, _, _, _, _, later => by
      simpa [inlineValue, leafLine] using scans_brackets brackets_list (Nat.le_succ indent) later
  | .obj [], indent, _, _, _, _, _, _, later => by
      simpa [inlineValue, leafLine] using scans_brackets brackets_mapping (Nat.le_succ indent) later
  | .arr (v :: vs), indent, _, rest, tokens, out, indents, legible, later => by
      have inside : Awaits (indent + 2) (items (indent + 2) vs ++ rest)
          ((valueTokens true v).reverse ++ .dash :: .blockList :: tokens) ((indent + 2 : Nat) : Int)
          (indent :: indents) out :=
        awaits_items vs legible.2 (awaits_inner (by simpa [valueTokens, itemTokens] using later))
      rw [inlineValue_list]
      exact scans_dash_behind (by omega) (scans_inline v legible.1 inside)
  | .obj ((k, v) :: es), indent, _, rest, tokens, out, indents, legible, later => by
      obtain ⟨_, word, first, others⟩ := legible
      have inside : Awaits (indent + 2) (entries (indent + 2) es ++ rest)
          ((valueTokens false v).reverse ++ .value :: .scalar .plain k :: .key :: .blockMapping :: tokens)
          ((indent + 2 : Nat) : Int) (indent :: indents) out :=
        awaits_entries es others (awaits_inner (by simpa [valueTokens, entryTokens] using later))
      rw [inlineValue_mapping]
      exact scans_entry_behind word (by omega) fun _ inner => scans_value v first inner inside
termination_by structural v => v

/-- **A value behind a colon.** What has parts stands on the lines below. -/
theorem scans_value : ∀ (v : Value) {indent line column : Nat} {rest : List Char}
    {tokens out : List Token} {indents : List Int}, Legible v → indent ≤ column →
      Awaits indent rest ((valueTokens false v).reverse ++ tokens) indent indents out →
      Scans (behind false ⟨behindColon indent v ++ rest, line, column⟩ tokens indent indents) out
  | .null, _, _, _, _, _, _, _, _, inner, later => scans_leaf Value.flat_null inner rfl later
  | .bool b, _, _, _, _, _, _, _, _, inner, later => scans_leaf (Value.flat_bool b) inner rfl later
  | .str s, _, _, _, _, _, _, _, _, inner, later => scans_leaf (Value.flat_str s) inner rfl later
  | .arr [], _, _, _, _, _, _, _, _, inner, later => scans_brackets brackets_list inner later
  | .obj [], _, _, _, _, _, _, _, _, inner, later => scans_brackets brackets_mapping inner later
  | .arr (v :: vs), _, _, _, _, _, _, _, legible, _, later =>
      scans_behind (awaits_items (v :: vs) legible (by simpa [valueTokens] using later))
  | .obj ((k, v) :: es), indent, _, _, rest, tokens, out, indents, legible, _, later => by
      obtain ⟨_, word, first, others⟩ := legible
      have inside : Awaits (indent + 2) (entries (indent + 2) es ++ rest)
          ((valueTokens false v).reverse ++ .value :: .scalar .plain k :: .key :: .blockMapping :: tokens)
          ((indent + 2 : Nat) : Int) (indent :: indents) out :=
        awaits_entries es others (awaits_inner (by simpa [valueTokens, entryTokens] using later))
      exact scans_behind <| awaits_opening word (by omega) fun _ _ inner => scans_value v first inner inside
termination_by structural v => v

/-- **The lines of a list**, in the block of its dashes. -/
theorem awaits_items : ∀ (vs : List Value) {indent : Nat} {rest : List Char} {tokens out : List Token}
    {indents : List Int}, LegibleItems vs →
      Awaits indent rest ((itemTokens vs).reverse ++ tokens) indent indents out →
      Awaits indent (items indent vs ++ rest) tokens indent indents out
  | [], _, _, _, _, _, _, later => by simpa [items, itemTokens] using later
  | v :: vs, indent, rest, tokens, out, indents, legible, later => by
      have inside : Awaits indent (items indent vs ++ rest)
          ((valueTokens true v).reverse ++ .dash :: tokens) indent indents out :=
        awaits_items vs legible.2 (by simpa [itemTokens] using later)
      have all := awaits_dash fun _ => scans_inline v legible.1 inside
      simpa [items_cons] using all
termination_by structural vs => vs

/-- **The lines of a mapping**, in its block. -/
theorem awaits_entries : ∀ (es : List (String × Value)) {indent : Nat} {rest : List Char}
    {tokens out : List Token} {indents : List Int}, LegibleEntries es →
      Awaits indent rest ((entryTokens es).reverse ++ tokens) indent indents out →
      Awaits indent (entries indent es ++ rest) tokens indent indents out
  | [], _, _, _, _, _, _, later => by simpa [entries, entryTokens] using later
  | (k, v) :: es, indent, rest, tokens, out, indents, legible, later => by
      obtain ⟨word, first, others⟩ := legible
      have inside : Awaits indent (entries indent es ++ rest)
          ((valueTokens false v).reverse ++ .value :: .scalar .plain k :: .key :: tokens) indent indents out :=
        awaits_entries es others (by simpa [entryTokens] using later)
      exact awaits_key word fun _ _ inner => scans_value v first inner inside
termination_by structural es => es

end

/-! ## 4. Documents -/

/-- **The end of the text** is the end of the document, once all blocks have ended. -/
theorem awaits_end (tokens : List Token) : Awaits 0 [] tokens (-1) [] tokens.reverse := by
  refine ⟨0, [], rfl, Nat.le_refl 0, nofun, fun line bound enough => ?_⟩
  cases bound with
  | zero => cases enough
  | succ bound => rfl

/-- A text is read from the beginning of its first line on. -/
theorem run_of_awaits {bound : Nat} (awaits : Awaits limit text [] (-1) [] out)
    (enough : text.length < bound) : run { cursor := { rest := text } } bound = .ok out := by
  obtain ⟨n, tail, rfl, _, opens, later⟩ := awaits
  have next : Arrives (start ⟨blanks n ++ tail, 0, 0⟩ [] (-1) []) (start ⟨tail, 0, n⟩ [] (-1) []) := by
    unfold Arrives toNext
    dsimp only [start, behind]
    rw [skipBlank_blanks opens, Nat.zero_add]
    rfl
  exact scans_of_arrives next (arrives_opens opens true _ _ _ _ _) (later 0) bound
    (Nat.lt_of_le_of_lt (length_toNext_le _) enough)

/-- **The tokens of a document** are those of its mapping. -/
theorem run_mapping {e : String × Value} {es : List (String × Value)} {bound : Nat}
    (legible : Legible (.obj (e :: es))) (enough : (entries 0 (e :: es)).length < bound) :
    run { cursor := { rest := entries 0 (e :: es) } } bound = .ok (valueTokens true (.obj (e :: es))) := by
  obtain ⟨k, v⟩ := e
  obtain ⟨_, word, first, others⟩ := legible
  have ended : Awaits 0 [] (.blockEnd :: ((entryTokens ((k, v) :: es)).reverse ++ [.blockMapping])) (-1) []
      (valueTokens true (.obj ((k, v) :: es))) := by
    have whole := awaits_end (.blockEnd :: ((entryTokens ((k, v) :: es)).reverse ++ [.blockMapping]))
    simpa [valueTokens] using whole
  have inside : Awaits 0 (entries 0 es ++ [])
      ((valueTokens false v).reverse ++ [.value, .scalar .plain k, .key, .blockMapping]) ((0 : Nat) : Int)
      [-1] (valueTokens true (.obj ((k, v) :: es))) :=
    awaits_entries es others (by simpa [entryTokens] using awaits_close (Nat.le_refl 0) (Or.inr rfl) ended)
  have all : Awaits 0 (entries 0 ((k, v) :: es) ++ []) [] (-1) [] _ :=
    awaits_opening word (by decide) fun _ _ inner => scans_value v first inner inside
  rw [List.append_nil] at all
  exact run_of_awaits all enough

end Scanner

end SchemaPages.Yaml
