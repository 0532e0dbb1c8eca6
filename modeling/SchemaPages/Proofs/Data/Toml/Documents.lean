import SchemaPages.Data.Toml.Reader
import SchemaPages.Proofs.Data.Tables
import SchemaPages.Proofs.Data.Toml.Texts
/-!
# Documents of TOML are read back

A document of two levels is written as tables, each with its heading and a line for every entry that is
set. Reading goes through the lines and adds what each says to what has been read.

* `Bare`, `Plain`: keys without quotes, and entries under such keys;
* `Reads`: from some document to another over some lines, with a lemma for each kind of line;
* `holding`: the document of tables that have been read, with what lines and headings add to it;
* `reads_entries`, `reads_tables`: the lines of a table, and of all tables;
* `read?_render`: what a document is read as.
-/

namespace SchemaPages.Toml

/-! ## 1. Keys and values -/

/-- **A key that needs no quotes.** -/
structure Bare (key : String) : Prop where
  filled : key.toList ≠ []
  plain : ∀ c ∈ key.toList, isKeyChar c = true

instance (key : String) : Decidable (Bare key) :=
  decidable_of_iff (key.toList ≠ [] ∧ key.toList.all isKeyChar = true)
    ⟨fun h => ⟨h.1, List.all_eq_true.mp h.2⟩, fun h => ⟨h.1, List.all_eq_true.mpr h.2⟩⟩

/-- The entries that are set. -/
def present (entries : List (String × Value)) : List (String × Value) :=
  entries.filter fun e => match e.2 with
    | .null => false
    | _ => true

section Parts

variable {key : String} {c : Char} {cs rest : List Char}

theorem takeWhile_bare (bare : Bare key) (stop : isKeyChar c = false) (rest : List Char) :
    (key.toList ++ c :: rest).takeWhile isKeyChar = key.toList := by
  rw [List.takeWhile_append_of_pos bare.plain, List.takeWhile_cons_of_neg (by simp [stop]),
    List.append_nil]

theorem ne_of_isKeyChar {d : Char} (h : isKeyChar c = true) (other : isKeyChar d = false) :
    c ≠ d := by
  rintro rfl
  rw [other] at h
  cases h

theorem not_blank_of_isKeyChar (h : isKeyChar c = true) : isBlank c = false := by
  unfold isBlank
  rw [Bool.or_eq_false_iff]
  exact ⟨beq_false_of_ne (ne_of_isKeyChar h (by decide)),
    beq_false_of_ne (ne_of_isKeyChar h (by decide))⟩

/-- A bare key begins with a character of keys. -/
theorem begins_bare (bare : Bare key) : ∃ k ks, key.toList = k :: ks ∧ isKeyChar k = true := by
  obtain ⟨k, ks, whole⟩ := List.exists_cons_of_ne_nil bare.filled
  exact ⟨k, ks, whole, bare.plain k (whole ▸ List.mem_cons_self)⟩

/-- No blanks stand before a bare key. -/
theorem dropWhile_bare (bare : Bare key) :
    (key.toList ++ rest).dropWhile isBlank = key.toList ++ rest := by
  obtain ⟨k, ks, whole, first⟩ := begins_bare bare
  rw [whole, List.cons_append, List.dropWhile_cons_of_neg (by
    rw [not_blank_of_isKeyChar first]
    exact Bool.false_ne_true)]

/-- **A bare key is read** up to what cannot belong to it. -/
theorem readKey_bare (bare : Bare key) (stop : isKeyChar c = false) {d : Char} {after : List Char}
    (next : (c :: rest).dropWhile isBlank = d :: after) (no_point : d ≠ '.') (bound : Nat) :
    readKey (bound + 1) (key.toList ++ c :: rest) = some (([], key), d :: after) := by
  obtain ⟨k, ks, whole, first⟩ := begins_bare bare
  have taken := takeWhile_bare bare stop rest
  have step : readKeyStep (key.toList ++ c :: rest) = some (key, c :: rest) := by
    rw [whole, List.cons_append] at taken ⊢
    rw [readKeyStep]
    · rw [taken]
      dsimp only
      rw [← whole, String.ofList_toList, ← List.cons_append, ← whole, List.drop_left]
    · exact fun _ same => ne_of_isKeyChar first (by decide) (List.cons.inj same).1
    · exact fun _ same => ne_of_isKeyChar first (by decide) (List.cons.inj same).1
  rw [readKey, step]
  simp only [bind, Option.bind, next]
  split
  · rename_i point
    exact absurd (List.cons.inj point).1 no_point
  · rfl

/-- A text begins with a quote. -/
theorem begins_of_readString {x : String × List Char} (h : readString cs = some x) :
    ∃ c more, cs = c :: more ∧ (c = '"' ∨ c = apostrophe) := by
  unfold readString at h
  split at h
  · exact ⟨_, _, rfl, Or.inl rfl⟩
  · exact ⟨_, _, rfl, Or.inl rfl⟩
  · exact ⟨_, _, rfl, Or.inr rfl⟩
  · exact ⟨_, _, rfl, Or.inr rfl⟩
  · cases h

theorem readValue_text (s : String) (depth bound : Nat) (rest : List Char) :
    readValue depth (bound + 1) ((textLiteral s).toList ++ '\n' :: rest) =
      some (.str s, '\n' :: rest) := by
  have back := readString_textLiteral s rest
  obtain ⟨c, more, begins, quote⟩ := begins_of_readString back
  rw [begins] at back ⊢
  rw [readValue]
  · rw [back]
  · intro _ same
    rw [(List.cons.inj same).1] at quote
    exact absurd quote (by decide)
  · intro _ same
    rw [(List.cons.inj same).1] at quote
    exact absurd quote (by decide)

/-- **The value of a line is read back**, behind blanks that do not count. -/
theorem readValue_flat {v : Value} {t : String} (flat : v.Flat) (written : valueText? v = some t)
    (depth bound : Nat) (rest : List Char) :
    readValue depth (bound + 1) ((' ' :: (t.toList ++ '\n' :: rest)).dropWhile isBlank) =
      some (v, '\n' :: rest) := by
  cases v with
  | str s =>
      cases written
      obtain ⟨c, more, begins, quote⟩ := begins_of_readString (readString_textLiteral s rest)
      have solid : isBlank c = false := by rcases quote with rfl | rfl <;> decide
      have same : (' ' :: ((textLiteral s).toList ++ '\n' :: rest)).dropWhile isBlank =
          (textLiteral s).toList ++ '\n' :: rest := by
        rw [List.dropWhile_cons_of_pos (by decide), begins,
          List.dropWhile_cons_of_neg (by rw [solid]; exact Bool.false_ne_true)]
      rw [same, readValue_text]
  | bool b =>
      cases written
      cases b <;> rfl
  | null => cases written
  | num n => cases flat
  | arr items => cases flat
  | obj entries => cases flat

end Parts

/-! ## 2. Lines -/

/-- **From a document to another**, over lines that there are enough steps for. -/
def Reads (d : Document) (cs : List Char) (d' : Document) : Prop :=
  ∀ bound, cs.length < bound → readLines d bound cs = some d'

section Lines

variable {d d₁ d' : Document} {key heading : String} {cs rest : List Char} {v : Value}

theorem reads_nil (d : Document) : Reads d [] d := by
  intro bound enough
  cases bound with
  | zero => cases enough
  | succ bound => rfl

/-- A blank line says nothing. -/
theorem reads_blank (later : Reads d cs d') : Reads d ('\n' :: cs) d' := by
  intro bound enough
  cases bound with
  | zero => cases enough
  | succ bound => exact later (bound + 1) (Nat.lt_of_succ_lt enough)

/-- Nothing stands before a line that begins with neither a blank, a comment nor a line end. -/
theorem dropGap_line {c : Char} (solid : isBlank c = false) (no_comment : c ≠ '#') (no_end : c ≠ '\n')
    (no_return : c ≠ '\r') (bound : Nat) : dropGap bound (c :: cs) = some (c :: cs) := by
  cases bound with
  | zero => rfl
  | succ bound =>
      have kept : dropComment (c :: cs) = some (c :: cs) := by
        rw [dropComment]
        exact fun _ same => no_comment (List.cons.inj same).1
      rw [dropGap, List.dropWhile_cons_of_neg (by rw [solid]; exact Bool.false_ne_true), kept]
      simp only [bind, Option.bind]
      split
      · rename_i same
        exact absurd (List.cons.inj same).1 no_end
      · rename_i same
        exact absurd (List.cons.inj same).1 no_return
      · rfl

theorem readHeading_bare (bare : Bare heading) (opened : d.openHeading false [] heading = some d₁) :
    readHeading d false (heading.toList ++ ']' :: '\n' :: rest) = some (d₁, rest) := by
  have key : readKey maxDepth (heading.toList ++ ']' :: '\n' :: rest) =
      some (([], heading), ']' :: '\n' :: rest) := readKey_bare bare (by decide) rfl (by decide) 78
  unfold readHeading
  rw [dropWhile_bare bare, key]
  simp only [bind, Option.bind, opened]
  rfl

/-- A heading opens a table. -/
theorem reads_heading (bare : Bare heading) (opened : d.openHeading false [] heading = some d₁)
    (later : Reads d₁ rest d') : Reads d ('[' :: (heading.toList ++ ']' :: '\n' :: rest)) d' := by
  intro bound enough
  cases bound with
  | zero => cases enough
  | succ bound =>
      have shorter : rest.length < bound := by
        simp only [List.length_cons, List.length_append] at enough
        omega
      obtain ⟨k, ks, whole, first⟩ := begins_bare bare
      rw [readLines, dropGap_line (by decide) (by decide) (by decide) (by decide)]
      simp only [bind, Option.bind]
      split
      · rename_i same
        cases same
      · rename_i same
        rw [whole] at same
        exact absurd (List.cons.inj (List.cons.inj same).2).1 (ne_of_isKeyChar first (by decide))
      · rename_i same
        obtain rfl := (List.cons.inj same).2
        rw [readHeading_bare bare opened]
        exact later bound shorter
      · rename_i other
        exact absurd rfl (other _)

theorem readEntry_flat {t : String} (bare : Bare key) (flat : v.Flat) (written : valueText? v = some t)
    (added : d.put [] key v = some d₁) (rest : List Char) :
    readEntry d (key.toList ++ ' ' :: '=' :: ' ' :: (t.toList ++ '\n' :: rest)) = some (d₁, rest) := by
  have found : readKey maxDepth (key.toList ++ ' ' :: '=' :: ' ' :: (t.toList ++ '\n' :: rest)) =
      some (([], key), '=' :: ' ' :: (t.toList ++ '\n' :: rest)) :=
    readKey_bare bare (by decide) rfl (by decide) 78
  unfold readEntry
  rw [found]
  simp only [bind, Option.bind, dropEquals, readValue_flat flat written, added]
  rfl

/-- The line of an entry puts it into the current table. -/
theorem reads_entry {t : String} (bare : Bare key) (flat : v.Flat) (written : valueText? v = some t)
    (added : d.put [] key v = some d₁) (later : Reads d₁ rest d') :
    Reads d (key.toList ++ ' ' :: '=' :: ' ' :: (t.toList ++ '\n' :: rest)) d' := by
  intro bound enough
  cases bound with
  | zero => cases enough
  | succ bound =>
      have shorter : rest.length < bound := by
        simp only [List.length_cons, List.length_append] at enough
        omega
      have entry := readEntry_flat bare flat written added rest
      obtain ⟨k, ks, whole, first⟩ := begins_bare bare
      rw [whole, List.cons_append] at entry ⊢
      rw [readLines, dropGap_line (not_blank_of_isKeyChar first) (ne_of_isKeyChar first (by decide))
        (ne_of_isKeyChar first (by decide)) (ne_of_isKeyChar first (by decide))]
      simp only [bind, Option.bind]
      split
      · rename_i same
        cases same
      · rename_i same
        exact absurd (List.cons.inj same).1 (ne_of_isKeyChar first (by decide))
      · rename_i same
        exact absurd (List.cons.inj same).1 (ne_of_isKeyChar first (by decide))
      · rw [entry]
        exact later bound shorter

end Lines

/-! ## 3. Tables that have been read -/

/-- The entries of a table while it is read. -/
def items (es : List (String × Value)) : List (String × Item) := es.map fun e => (e.1, .value e.2)

/-- A table under its heading while it is read. -/
def headed (t : String × List (String × Value)) : String × Item := (t.1, .table .heading (items t.2))

/-- **The document of tables that have been read.** Lines go into the last one. -/
def holding (tables : List (String × List (String × Value))) : Document where
  root := { entries := tables.map headed }
  current := (tables.map Prod.fst).getLast?.toList

section Tables

variable {α β : Type} {key heading : String} {l : List (String × α)} {es : List (String × Value)}
  {tables : List (String × List (String × Value))}

/-- What is there last is replaced. -/
theorem insertEntry_last (fresh : key ∉ l.map Prod.fst) (a b : α) :
    insertEntry key b (l ++ [(key, a)]) = l ++ [(key, b)] := by
  rw [← insertEntry_of_fresh fresh a, insertEntry_insertEntry, insertEntry_of_fresh fresh]

theorem lookup_of_fresh (fresh : key ∉ l.map Prod.fst) : l.lookup key = none := by
  rw [List.lookup_eq_none_iff]
  intro e mem
  rw [bne_iff_ne]
  rintro rfl
  exact fresh (List.mem_map_of_mem mem)

theorem lookup_last (fresh : key ∉ l.map Prod.fst) (a : α) :
    (l ++ [(key, a)]).lookup key = some a := by
  rw [List.lookup_append, lookup_of_fresh fresh, List.lookup_cons_self, Option.none_or]

theorem keys_items (es : List (String × Value)) : (items es).map Prod.fst = es.map Prod.fst := by
  rw [items, List.map_map]
  rfl

theorem keys_headed (tables : List (String × List (String × Value))) :
    (tables.map headed).map Prod.fst = tables.map Prod.fst := by
  rw [List.map_map]
  rfl

theorem headed_concat (tables : List (String × List (String × Value))) (heading : String)
    (es : List (String × Value)) : (tables ++ [(heading, es)]).map headed =
      tables.map headed ++ [(heading, .table .heading (items es))] :=
  List.map_append

theorem holding_concat (tables : List (String × List (String × Value))) (heading : String)
    (es : List (String × Value)) : holding (tables ++ [(heading, es)]) =
      { root := { entries := (tables ++ [(heading, es)]).map headed }, current := [heading] } := by
  unfold holding
  rw [List.map_append (f := Prod.fst)]
  exact congrArg (Document.mk _) (congrArg Option.toList List.getLast?_concat)

/-- **A new key is put behind the others** of the last table. -/
theorem put_holding (fresh : heading ∉ tables.map Prod.fst) (new : key ∉ es.map Prod.fst)
    (v : Value) : (holding (tables ++ [(heading, es)])).put [] key v =
      some (holding (tables ++ [(heading, es ++ [(key, v)])])) := by
  rw [← keys_headed] at fresh
  rw [← keys_items] at new
  have added : items es ++ [(key, .value v)] = items (es ++ [(key, v)]) := by
    rw [items, items, List.map_append]
    rfl
  have inner : Table.put [] key v { entries := items es } =
      some { entries := items (es ++ [(key, v)]) } := by
    rw [Table.put, Table.changeAt, lookup_of_fresh new]
    show some (Table.withItem _ key (.value v)) = _
    rw [Table.withItem, insertEntry_of_fresh new, added]
  simp only [holding_concat, Document.put, Table.changeAt, headed_concat, lookup_last fresh,
    Table.withItem, inner, insertEntry_last fresh, bind, Option.bind]
  rfl

/-- A new heading opens a table behind the others. -/
theorem openHeading_holding (fresh : heading ∉ tables.map Prod.fst) :
    (holding tables).openHeading false [] heading = some (holding (tables ++ [(heading, [])])) := by
  rw [← keys_headed] at fresh
  rw [holding_concat, headed_concat, holding]
  simp only [Document.openHeading, Table.openTable, Table.changeAt, lookup_of_fresh fresh,
    Table.withItem, insertEntry_of_fresh fresh]
  rfl

end Tables

/-! ## 4. Documents -/

/-- The texts of tables under their headings. -/
def tableTexts (tables : List (String × List (String × Value))) : List String :=
  tables.map fun t => tableText t.1 (.obj t.2)

theorem render_ofTables (tables : List (String × List (String × Value))) :
    render (.ofTables tables) = Text.join "\n" (tableTexts tables) := by
  unfold render Value.ofTables tableTexts entriesOf
  rw [List.map_map]
  rfl

section Whole

variable {heading key : String} {rest : List Char} {d' : Document} {v : Value}
  {es : List (String × Value)} {tables : List (String × List (String × Value))}

/-- **Entries that can be read back**: under different keys without quotes, with values that have lines
    of their own. -/
structure Plain (es : List (String × Value)) : Prop where
  bare : ∀ e ∈ es, Bare e.1
  flat : ∀ e ∈ es, e.2.Flat
  once : (es.map Prod.fst).Nodup

/-- An entry that is not set has no line; every other one has. -/
theorem entryLine_flat (key : String) (flat : v.Flat) (es : List (String × Value)) :
    (v = .null ∧ entryLine key v = "") ∨
      ∃ t, valueText? v = some t ∧ entryLine key v = key ++ " = " ++ t ++ "\n" ∧
        present ((key, v) :: es) = (key, v) :: present es := by
  cases v with
  | null => exact Or.inl ⟨rfl, rfl⟩
  | bool b => exact Or.inr ⟨_, rfl, rfl, rfl⟩
  | str s => exact Or.inr ⟨_, rfl, rfl, rfl⟩
  | num n => cases flat
  | arr l => cases flat
  | obj l => cases flat

/-- The lines of a table put what is set behind what has been read of it. -/
theorem reads_entries (done : List (String × Value)) (fresh : heading ∉ tables.map Prod.fst)
    (bare : ∀ e ∈ es, Bare e.1) (flat : ∀ e ∈ es, e.2.Flat)
    (once : (done.map Prod.fst ++ es.map Prod.fst).Nodup)
    (later : Reads (holding (tables ++ [(heading, done ++ present es)])) rest d') :
    Reads (holding (tables ++ [(heading, done)]))
      ((String.join (es.map fun e => entryLine e.1 e.2)).toList ++ rest) d' := by
  induction es generalizing done with
  | nil =>
      rw [show present [] = [] from rfl, List.append_nil] at later
      exact later
  | cons e es ih =>
      obtain ⟨key, v⟩ := e
      have bare' := fun x mem => bare x (List.mem_cons_of_mem (key, v) mem)
      have flat' := fun x mem => flat x (List.mem_cons_of_mem (key, v) mem)
      rw [List.map_cons, String.join_cons, String.toList_append, List.append_assoc]
      rcases entryLine_flat key (flat _ List.mem_cons_self) es with
        ⟨rfl, no_line⟩ | ⟨t, written, line, set⟩
      · rw [no_line]
        have shorter := (List.sublist_cons_self key (es.map Prod.fst)).append_left (done.map Prod.fst)
        exact ih done bare' flat' (once.sublist shorter) later
      · have new : key ∉ done.map Prod.fst := fun mem =>
          (List.nodup_append.mp once).2.2 key mem key List.mem_cons_self rfl
        rw [set, List.append_cons done] at later
        have next := ih (done ++ [(key, v)]) bare' flat' (by simpa using once) later
        have entry := reads_entry (bare _ List.mem_cons_self) (flat _ List.mem_cons_self) written
          (put_holding fresh new v) next
        rw [line]
        simpa [String.toList_append] using entry

/-- The lines of a table add it behind the others. -/
theorem reads_table (fresh : heading ∉ tables.map Prod.fst) (bare : Bare heading) (plain : Plain es)
    (later : Reads (holding (tables ++ [(heading, present es)])) rest d') :
    Reads (holding tables) ((tableText heading (.obj es)).toList ++ rest) d' := by
  have entries := reads_entries [] fresh plain.bare plain.flat plain.once later
  have whole := reads_heading bare (openHeading_holding fresh) entries
  simpa [tableText, entriesOf, String.toList_append] using whole

/-- **All tables are read**, one after the other. -/
theorem reads_tables (before : List (String × List (String × Value)))
    (bare : ∀ t ∈ tables, Bare t.1) (plain : ∀ t ∈ tables, Plain t.2)
    (once : (before.map Prod.fst ++ tables.map Prod.fst).Nodup) :
    Reads (holding before) (Text.join "\n" (tableTexts tables)).toList
      (holding (before ++ tables.map fun t => (t.1, present t.2))) := by
  induction tables generalizing before with
  | nil =>
      rw [List.map_nil, List.append_nil]
      exact reads_nil _
  | cons t tables ih =>
      obtain ⟨heading, es⟩ := t
      have fresh : heading ∉ before.map Prod.fst := fun mem =>
        (List.nodup_append.mp once).2.2 heading mem heading List.mem_cons_self rfl
      have rest := ih (before ++ [(heading, present es)])
        (fun x mem => bare x (List.mem_cons_of_mem _ mem))
        (fun x mem => plain x (List.mem_cons_of_mem _ mem)) (by simpa using once)
      rw [← List.append_cons] at rest
      have bare_first := bare _ List.mem_cons_self
      have plain_first := plain _ List.mem_cons_self
      cases tables with
      | nil =>
          have last := reads_table fresh bare_first plain_first (reads_nil _)
          rw [List.append_nil] at last
          exact last
      | cons next tables =>
          have more := reads_table fresh bare_first plain_first (reads_blank rest)
          simpa [tableTexts, Text.join, String.toList_append] using more

/-- A document that is written has no mark in front. -/
theorem withoutMark_tables (tables : List (String × List (String × Value))) :
    withoutMark (Text.join "\n" (tableTexts tables)).toList =
      (Text.join "\n" (tableTexts tables)).toList := by
  cases tables with
  | nil => rfl
  | cons t tables =>
      have begins : ∃ cs, (Text.join "\n" (tableTexts (t :: tables))).toList = '[' :: cs := by
        cases tables <;> simp [tableTexts, Text.join, tableText, String.toList_append]
      obtain ⟨cs, whole⟩ := begins
      rw [whole]
      rfl

end Whole

/-- The values of entries that have been read are what was read. -/
theorem entryValues_items (es : List (String × Value)) : entryValues (items es) = es := by
  induction es with
  | nil => rfl
  | cons e es ih => exact congrArg ((e.1, e.2) :: ·) ih

theorem toValue_holding (tables : List (String × List (String × Value))) :
    (holding tables).root.toValue = .ofTables tables := by
  refine congrArg Value.obj ?_
  induction tables with
  | nil => rfl
  | cons t tables ih =>
      refine congrArg₂ List.cons (congrArg (Prod.mk t.1) ?_) ih
      exact congrArg Value.obj (entryValues_items t.2)

/-- **What a document is read as**: its tables with what is set in them. -/
theorem read?_render {tables : List (String × List (String × Value))}
    (bare : ∀ t ∈ tables, Bare t.1) (plain : ∀ t ∈ tables, Plain t.2)
    (once : (tables.map Prod.fst).Nodup) :
    read? (render (.ofTables tables)) =
      some (.ofTables (tables.map fun t => (t.1, present t.2))) := by
  have all := reads_tables [] bare plain once
  unfold read?
  rw [render_ofTables, withoutMark_tables]
  dsimp only
  rw [show ({} : Document) = holding [] from rfl, all _ (Nat.lt_succ_self _), Option.map_some,
    List.nil_append, toValue_holding]

end SchemaPages.Toml
