import Mathlib.Data.List.Basic
import SchemaPages.Data.Json.Printer
import SchemaPages.Data.Json.Reader
/-!
# JSON is read back

What is printed is cut into the tokens of the value, whatever blanks stand between them, and the tokens
are read as the value. Numbers are left out: a double need not be read back to its last bit.

* `Value.Worded`: values without numbers, nested no deeper than given;
* `readString_escaped`: strings;
* `Cuts`, `cuts_prettyAt`, `cuts_compact`: the tokens of what is printed, over several lines or on one;
* `readTokens_tokens`: what the tokens are read as;
* `readRepeated?_pretty`, `readRepeated?_compact`: both together.
-/

namespace SchemaPages

/-! ## 1. Values without numbers -/

mutual

/-- **A value without numbers**, in which no more lists and mappings are open at once than given. -/
def Value.Worded : Nat → Value → Prop
  | _, .num _ => False
  | 0, .arr _ => False
  | 0, .obj _ => False
  | room + 1, .arr items => WordedItems room items
  | room + 1, .obj entries => WordedEntries room entries
  | _, _ => True

/-- The items of such a value. -/
def WordedItems (room : Nat) : List Value → Prop
  | [] => True
  | v :: rest => v.Worded room ∧ WordedItems room rest

/-- The entries of such a value. -/
def WordedEntries (room : Nat) : List (String × Value) → Prop
  | [] => True
  | (_, v) :: rest => v.Worded room ∧ WordedEntries room rest

end

namespace Json

/-! ## 2. Strings -/

/-- A control character is read back from its four digits. -/
theorem hexUnit?_hex4 : ∀ n < 0x20, (match hex4 n with
    | [a, b, c, d] => hexUnit? a b c d
    | _ => none) = some n := by
  decide +kernel

/-- **A character is read back** from what stands for it in a string. -/
theorem readString_escapedChar (c : Char) (read tail : List Char) :
    readString read (escapedChar c ++ tail) = readString (c :: read) tail := by
  unfold escapedChar
  cases letter : escapeLetter? c with
  | some l =>
      unfold escapeLetter? at letter
      split at letter <;> cases letter <;> rfl
  | none =>
      dsimp only
      split
      · rename_i control
        have digits := hexUnit?_hex4 c.toNat control
        split at digits
        · rename_i a b d e four
          have low : ¬ (0xD800 ≤ c.toNat ∧ c.toNat < 0xDC00) := by omega
          have high : ¬ (0xDC00 ≤ c.toNat ∧ c.toNat < 0xE000) := by omega
          rw [four]
          show readString read ('\\' :: 'u' :: a :: b :: d :: e :: tail) = _
          rw [readString, digits]
          dsimp only [bind, Option.bind]
          rw [if_neg low, if_neg high, Char.ofNat_toNat]
        · cases digits
      · rename_i printed
        have no_quote : c ≠ '"' := fun h => by rw [h] at letter; cases letter
        have no_backslash : c ≠ '\\' := fun h => by rw [h] at letter; cases letter
        show readString read (c :: tail) = _
        rw [readString]
        · rw [if_neg (not_or.mpr ⟨printed, no_backslash⟩)]
        · exact no_quote
        · intro _ _ _ _ _ same _
          exact no_backslash same
        · intro _ _ same _
          exact no_backslash same

/-- **A string is read back**: by induction on its characters. -/
theorem readString_escaped (cs read rest : List Char) :
    readString read (cs.flatMap escapedChar ++ '"' :: rest) =
      some (String.ofList (read.reverse ++ cs), rest) := by
  induction cs generalizing read with
  | nil =>
      rw [List.append_nil]
      rfl
  | cons c cs ih =>
      rw [List.flatMap_cons, List.append_assoc, readString_escapedChar, ih, List.reverse_cons,
        List.append_assoc]
      rfl

/-! ## 3. Tokens -/

/-- **Characters are cut into tokens**, given as many steps as there are characters. -/
def Cuts (cs : List Char) (ts : List Token) : Prop :=
  ∀ steps, cs.length ≤ steps → tokensWithin steps cs = some ts

section Cutting

variable {c : Char} {cs rest : List Char} {t : Token} {ts : List Token}

theorem cuts_nil : Cuts [] [] := fun steps _ => by
  unfold tokensWithin
  rfl

theorem cuts_blank (blank : isBlank c = true) (later : Cuts cs ts) : Cuts (c :: cs) ts := by
  intro steps enough
  have cut := later steps (Nat.le_of_succ_le enough)
  unfold tokensWithin at cut ⊢
  rwa [List.dropWhile_cons_of_pos blank]

theorem cuts_blanks (blank : ∀ c ∈ cs, isBlank c = true) (later : Cuts rest ts) :
    Cuts (cs ++ rest) ts := by
  induction cs with
  | nil => exact later
  | cons c cs ih =>
      exact cuts_blank (blank c List.mem_cons_self) (ih fun d hd => blank d (List.mem_cons_of_mem _ hd))

/-- A token takes a step. -/
theorem cuts_token (solid : isBlank c = false) (taken : readToken (c :: cs) = some (t, rest))
    (shorter : rest.length ≤ cs.length) (later : Cuts rest ts) : Cuts (c :: cs) (t :: ts) := by
  intro steps enough
  cases steps with
  | zero => cases enough
  | succ steps =>
      have cut := later steps (Nat.le_trans shorter (Nat.le_of_succ_le_succ enough))
      unfold tokensWithin
      rw [List.dropWhile_cons_of_neg (by rw [solid]; exact Bool.false_ne_true)]
      simp only [taken, cut, bind, Option.bind]
      rfl

theorem cuts_newline (level : Nat) (later : Cuts rest ts) :
    Cuts ((newline level).toList ++ rest) ts := by
  refine cuts_blanks (fun c hc => ?_) later
  unfold newline at hc
  rw [String.toList_ofList] at hc
  rcases List.mem_cons.mp hc with rfl | hc
  · rfl
  · rw [List.eq_of_mem_replicate hc]
    rfl

theorem cuts_quote (s : String) (later : Cuts rest ts) :
    Cuts ((quote s).toList ++ rest) (.text s :: ts) := by
  unfold quote
  rw [String.toList_ofList]
  show Cuts ('"' :: (s.toList.flatMap escapedChar ++ ['"'] ++ rest)) _
  rw [List.append_assoc]
  refine cuts_token (by decide) ?_ ?_ later
  · show (readString [] (s.toList.flatMap escapedChar ++ '"' :: rest)).map _ = _
    rw [readString_escaped]
    show some (Token.text (String.ofList s.toList), rest) = _
    rw [String.ofList_toList]
  · simp
    omega

end Cutting

mutual

/-- The tokens of a value. -/
def tokens : Value → List Token
  | .arr [] => [.openList, .closeList]
  | .obj [] => [.openMap, .closeMap]
  | .arr (v :: rest) => .openList :: tokens v ++ itemTokens rest ++ [.closeList]
  | .obj ((k, v) :: rest) =>
    .openMap :: .text k :: .colon :: tokens v ++ entryTokens rest ++ [.closeMap]
  | .null => [.scalar .null]
  | .bool b => [.scalar (.bool b)]
  | .num n => [.scalar (.num n)]
  | .str s => [.text s]

/-- The tokens of the items after the first. -/
def itemTokens : List Value → List Token
  | [] => []
  | v :: rest => .comma :: tokens v ++ itemTokens rest

/-- The tokens of the entries after the first. -/
def entryTokens : List (String × Value) → List Token
  | [] => []
  | (k, v) :: rest => .comma :: .text k :: .colon :: tokens v ++ entryTokens rest

end

section Printing

variable {rest : List Char} {ts : List Token}

theorem cuts_mark {c : Char} {t : Token} (solid : isBlank c = false)
    (taken : ∀ rest, readToken (c :: rest) = some (t, rest)) (later : Cuts rest ts) :
    Cuts (c :: rest) (t :: ts) :=
  cuts_token solid (taken rest) (Nat.le_refl _) later

/-- A key with its colon and the blank behind it. -/
theorem cuts_key (k : String) (later : Cuts rest ts) :
    Cuts ((quote k).toList ++ (": ".toList ++ rest)) (.text k :: .colon :: ts) :=
  cuts_quote k (cuts_mark rfl (fun _ => rfl) (cuts_blank rfl later))

theorem cuts_null (later : Cuts rest ts) : Cuts ("null".toList ++ rest) (.scalar .null :: ts) := by
  show Cuts ('n' :: 'u' :: 'l' :: 'l' :: rest) _
  exact cuts_token rfl rfl (Nat.le_add_right _ 3) later

theorem cuts_bool (b : Bool) (later : Cuts rest ts) :
    Cuts ((if b then "true" else "false").toList ++ rest) (.scalar (.bool b) :: ts) := by
  cases b
  · show Cuts ('f' :: 'a' :: 'l' :: 's' :: 'e' :: rest) _
    exact cuts_token rfl rfl (Nat.le_add_right _ 4) later
  · show Cuts ('t' :: 'r' :: 'u' :: 'e' :: rest) _
    exact cuts_token rfl rfl (Nat.le_add_right _ 3) later

end Printing

mutual

/-- **What is printed is cut into the tokens of the value**: by induction on the value, whatever comes
    behind it. -/
theorem cuts_prettyAt {rest : List Char} {ts : List Token} :
    ∀ (v : Value) {room : Nat} (level : Nat), v.Worded room → Cuts rest ts →
      Cuts ((prettyAt level v).toList ++ rest) (tokens v ++ ts)
  | .null, _, _, _, later => by
      rw [prettyAt, tokens]
      exact cuts_null later
  | .bool b, _, _, _, later => by
      rw [prettyAt, tokens]
      exact cuts_bool b later
  | .num n, _, _, worded, _ => by cases worded
  | .str s, _, _, _, later => by
      rw [prettyAt, tokens]
      exact cuts_quote s later
  | .arr [], _, _, _, later => by
      rw [prettyAt, tokens]
      show Cuts ('[' :: ']' :: rest) (.openList :: .closeList :: ts)
      exact cuts_mark rfl (fun _ => rfl) (cuts_mark rfl (fun _ => rfl) later)
  | .obj [], _, _, _, later => by
      rw [prettyAt, tokens]
      show Cuts ('\x7b' :: '\x7d' :: rest) (.openMap :: .closeMap :: ts)
      exact cuts_mark rfl (fun _ => rfl) (cuts_mark rfl (fun _ => rfl) later)
  | .arr (v :: items), 0, _, worded, _ => by cases worded
  | .obj (e :: entries), 0, _, worded, _ => by cases worded
  | .arr (v :: items), room + 1, level, worded, later => by
      obtain ⟨first, others⟩ := worded
      have close : Cuts (']' :: rest) (.closeList :: ts) := cuts_mark rfl (fun _ => rfl) later
      have inside := cuts_newline (level + 1) <| cuts_prettyAt v (level + 1) first <|
        cuts_prettyItems items (level + 1) others <| cuts_newline level close
      have whole := cuts_mark (c := '[') (t := .openList) rfl (fun _ => rfl) inside
      simpa [prettyAt, tokens] using whole
  | .obj ((k, v) :: entries), room + 1, level, worded, later => by
      obtain ⟨first, others⟩ := worded
      have close : Cuts ('\x7d' :: rest) (.closeMap :: ts) := cuts_mark rfl (fun _ => rfl) later
      have inside := cuts_newline (level + 1) <| cuts_key k <| cuts_prettyAt v (level + 1) first <|
        cuts_prettyEntries entries (level + 1) others <| cuts_newline level close
      have whole := cuts_mark (c := '\x7b') (t := .openMap) rfl (fun _ => rfl) inside
      simpa [prettyAt, tokens] using whole

/-- The items after the first. -/
theorem cuts_prettyItems {rest : List Char} {ts : List Token} :
    ∀ (items : List Value) {room : Nat} (level : Nat), WordedItems room items → Cuts rest ts →
      Cuts ((prettyItems level items).toList ++ rest) (itemTokens items ++ ts)
  | [], _, _, _, later => later
  | v :: items, room, level, worded, later => by
      have inside := cuts_newline level <| cuts_prettyAt v level worded.1 <|
        cuts_prettyItems items level worded.2 later
      have whole := cuts_mark (c := ',') (t := .comma) rfl (fun _ => rfl) inside
      simpa [prettyItems, itemTokens] using whole

/-- The entries after the first. -/
theorem cuts_prettyEntries {rest : List Char} {ts : List Token} :
    ∀ (entries : List (String × Value)) {room : Nat} (level : Nat), WordedEntries room entries →
      Cuts rest ts → Cuts ((prettyEntries level entries).toList ++ rest) (entryTokens entries ++ ts)
  | [], _, _, _, later => later
  | (k, v) :: entries, room, level, worded, later => by
      have inside := cuts_newline level <| cuts_key k <| cuts_prettyAt v level worded.1 <|
        cuts_prettyEntries entries level worded.2 later
      have whole := cuts_mark (c := ',') (t := .comma) rfl (fun _ => rfl) inside
      simpa [prettyEntries, entryTokens] using whole

end

mutual

/-- **So is what is printed on one line.** -/
theorem cuts_compact : ∀ (v : Value) {room : Nat} {rest : List Char} {ts : List Token},
    v.Worded room → Cuts rest ts → Cuts ((compact v).toList ++ rest) (tokens v ++ ts)
  | .null, _, _, _, _, later => by
      rw [compact, tokens]
      exact cuts_null later
  | .bool b, _, _, _, _, later => by
      rw [compact, tokens]
      exact cuts_bool b later
  | .num n, _, _, _, worded, _ => by cases worded
  | .str s, _, _, _, _, later => by
      rw [compact, tokens]
      exact cuts_quote s later
  | .arr _, 0, _, _, worded, _ => by cases worded
  | .obj _, 0, _, _, worded, _ => by cases worded
  | .arr items, room + 1, rest, ts, worded, later => by
      have close : Cuts (']' :: rest) (.closeList :: ts) := cuts_mark rfl (fun _ => rfl) later
      have whole := cuts_mark (c := '[') (t := .openList) rfl (fun _ => rfl)
        (cuts_compactItems items worded close)
      cases items <;> simpa [compact, tokens, itemTokens] using whole
  | .obj entries, room + 1, rest, ts, worded, later => by
      have close : Cuts ('\x7d' :: rest) (.closeMap :: ts) := cuts_mark rfl (fun _ => rfl) later
      have whole := cuts_mark (c := '\x7b') (t := .openMap) rfl (fun _ => rfl)
        (cuts_compactEntries entries worded close)
      rcases entries with _ | ⟨⟨k, v⟩, entries⟩ <;> simpa [compact, tokens, entryTokens] using whole
termination_by structural v => v

/-- Items, of which the first has no comma before it. -/
theorem cuts_compactItems : ∀ (items : List Value) {room : Nat} {rest : List Char} {ts : List Token},
    WordedItems room items → Cuts rest ts →
      Cuts ((compactItems items).toList ++ rest) ((itemTokens items).tail ++ ts)
  | [], _, _, _, _, later => later
  | [v], _, _, _, worded, later => by
      simpa [compactItems, itemTokens] using cuts_compact v worded.1 later
  | v :: w :: items, _, _, _, worded, later => by
      have others := cuts_mark (c := ',') (t := .comma) rfl (fun _ => rfl)
        (cuts_compactItems (w :: items) worded.2 later)
      simpa [compactItems, itemTokens] using cuts_compact v worded.1 others
termination_by structural items => items

/-- Entries, of which the first has no comma before it. -/
theorem cuts_compactEntries : ∀ (entries : List (String × Value)) {room : Nat} {rest : List Char}
    {ts : List Token}, WordedEntries room entries → Cuts rest ts →
      Cuts ((compactEntries entries).toList ++ rest) ((entryTokens entries).tail ++ ts)
  | [], _, _, _, _, later => later
  | [(k, v)], _, _, _, worded, later => by
      have value := cuts_mark (c := ':') (t := .colon) rfl (fun _ => rfl) (cuts_compact v worded.1 later)
      simpa [compactEntries, entryTokens] using cuts_quote k value
  | (k, v) :: (l, w) :: entries, _, _, _, worded, later => by
      have others := cuts_mark (c := ',') (t := .comma) rfl (fun _ => rfl)
        (cuts_compactEntries ((l, w) :: entries) worded.2 later)
      have value := cuts_mark (c := ':') (t := .colon) rfl (fun _ => rfl) (cuts_compact v worded.1 others)
      simpa [compactEntries, entryTokens] using cuts_quote k value
termination_by structural entries => entries

end

/-! ## 4. Values from their tokens -/

/-- Entries are added at the end, also under a key that is there. -/
def addLast : AddEntry := fun k v entries => entries ++ [(k, v)]

section Reading

variable {stack : List Frame} {ts : List Token}

theorem readTokens_cons {add : AddEntry} {mode mode' : Mode} {stack' : List Frame} {t : Token}
    (h : step add stack mode t = some (stack', mode')) :
    readTokens add stack mode (t :: ts) = readTokens add stack' mode' ts := by
  rw [readTokens, h]
  rfl

/-- The first item of a list is read like a value anywhere. -/
theorem readTokens_itemOrEnd {add : AddEntry} (v : Value) :
    readTokens add stack .itemOrEnd (tokens v ++ ts) = readTokens add stack .value (tokens v ++ ts) := by
  have first : ∃ t rest, tokens v = t :: rest ∧ t ≠ .closeList := by
    unfold tokens
    split
    all_goals exact ⟨_, _, rfl, nofun⟩
  obtain ⟨t, rest, same, begins⟩ := first
  rw [same, List.cons_append, readTokens, readTokens]
  cases t with
  | closeList => exact absurd rfl begins
  | _ => rfl

theorem step_openList {add : AddEntry} (room : stack.length < maxDepth) :
    step add stack .value .openList = some (.list [] :: stack, .itemOrEnd) :=
  if_pos room

theorem step_openMap {add : AddEntry} (room : stack.length < maxDepth) :
    step add stack .value .openMap = some (.map [] "" :: stack, .keyOrEnd []) :=
  if_pos room

end Reading

mutual

/-- **The tokens of a value are read as the value**: by induction on it, whatever is open already. -/
theorem readTokens_tokens {stack : List Frame} {ts : List Token} :
    ∀ (v : Value) {room : Nat}, v.Worded room → stack.length + room ≤ maxDepth →
      readTokens addLast stack .value (tokens v ++ ts) = readTokens addLast stack (.done v) ts
  | .null, _, _, _ => by rw [tokens]; exact readTokens_cons rfl
  | .bool b, _, _, _ => by rw [tokens]; exact readTokens_cons rfl
  | .num n, _, worded, _ => by cases worded
  | .str s, _, _, _ => by rw [tokens]; exact readTokens_cons rfl
  | .arr _, 0, worded, _ => by cases worded
  | .obj _, 0, worded, _ => by cases worded
  | .arr [], room + 1, _, fits => by
      rw [tokens]
      exact (readTokens_cons (step_openList (by omega))).trans (readTokens_cons rfl)
  | .obj [], room + 1, _, fits => by
      rw [tokens]
      exact (readTokens_cons (step_openMap (by omega))).trans (readTokens_cons rfl)
  | .arr (v :: items), room + 1, worded, fits => by
      obtain ⟨first, others⟩ := worded
      have inner : (Frame.list [] :: stack).length + room ≤ maxDepth := by
        rw [List.length_cons]
        omega
      rw [tokens]
      simp only [List.cons_append, List.append_assoc]
      rw [readTokens_cons (step_openList (by omega)), readTokens_itemOrEnd,
        readTokens_tokens v first inner]
      exact readTokens_items items others inner
  | .obj ((k, v) :: entries), room + 1, worded, fits => by
      obtain ⟨first, others⟩ := worded
      have inner : (Frame.map [] k :: stack).length + room ≤ maxDepth := by
        rw [List.length_cons]
        omega
      rw [tokens]
      simp only [List.cons_append, List.append_assoc]
      rw [readTokens_cons (step_openMap (by omega)), readTokens_cons rfl, readTokens_cons rfl,
        readTokens_tokens v first inner]
      exact readTokens_entries entries others inner

/-- The items of a list, behind one that is complete. -/
theorem readTokens_items {stack : List Frame} {ts : List Token} {read : List Value} {v : Value} :
    ∀ (items : List Value) {room : Nat}, WordedItems room items →
      (Frame.list read :: stack).length + room ≤ maxDepth →
      readTokens addLast (.list read :: stack) (.done v) (itemTokens items ++ (.closeList :: ts)) =
        readTokens addLast stack (.done (.arr (read.reverse ++ v :: items))) ts
  | [], _, _, _ => by
      rw [itemTokens, ← List.reverse_cons]
      exact readTokens_cons rfl
  | w :: items, room, worded, fits => by
      have inner : (Frame.list (v :: read) :: stack).length + room ≤ maxDepth := fits
      rw [itemTokens]
      simp only [List.cons_append, List.append_assoc]
      rw [readTokens_cons rfl, readTokens_tokens w worded.1 inner,
        readTokens_items items worded.2 inner, List.reverse_cons, List.append_assoc]
      rfl

/-- The entries of a mapping, behind one that is complete. -/
theorem readTokens_entries {stack : List Frame} {ts : List Token} {read : List (String × Value)}
    {k : String} {v : Value} :
    ∀ (entries : List (String × Value)) {room : Nat}, WordedEntries room entries →
      (Frame.map read k :: stack).length + room ≤ maxDepth →
      readTokens addLast (.map read k :: stack) (.done v) (entryTokens entries ++ (.closeMap :: ts)) =
        readTokens addLast stack (.done (.obj (read ++ (k, v) :: entries))) ts
  | [], _, _, _ => by
      rw [entryTokens]
      exact readTokens_cons rfl
  | (l, w) :: entries, room, worded, fits => by
      have inner : (Frame.map (read ++ [(k, v)]) l :: stack).length + room ≤ maxDepth := fits
      rw [entryTokens]
      simp only [List.cons_append, List.append_assoc]
      rw [readTokens_cons rfl, readTokens_cons rfl, readTokens_cons rfl]
      show readTokens addLast (.map (read ++ [(k, v)]) l :: stack) .value _ = _
      rw [readTokens_tokens w worded.1 inner, readTokens_entries entries worded.2 inner,
        List.append_assoc]
      rfl

end

/-- **Values without numbers are read back** from their tokens, keys that come twice included. -/
theorem readRepeated?_cuts {text : String} {v : Value} (worded : v.Worded maxDepth)
    (cut : Cuts text.toList (tokens v)) : readRepeated? text = some v := by
  have read : readTokens addLast [] .value (tokens v) = some v := by
    rw [← List.append_nil (tokens v), readTokens_tokens v worded (Nat.le_of_eq (Nat.zero_add _))]
    rfl
  have tokenized : tokens? text = some (tokens v) := cut _ (Nat.le_refl _)
  unfold readRepeated?
  rw [tokenized]
  exact read

theorem readRepeated?_pretty {v : Value} (worded : v.Worded maxDepth) :
    readRepeated? (pretty v) = some v := by
  have whole := cuts_prettyAt v 0 worded cuts_nil
  rw [List.append_nil, List.append_nil] at whole
  exact readRepeated?_cuts worded whole

end Json

end SchemaPages
