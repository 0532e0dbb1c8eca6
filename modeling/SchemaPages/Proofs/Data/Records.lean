import SchemaPages.Data.Encode
import SchemaPages.Proofs.View.Names
/-!
# Records read and written

A record is read by a table of its fields and written as entries, in the same order, with nothing for
what is not set. Reading such entries gives the record back if what each field holds is something
that its reader takes.

* `Field.Keeps`, `keeps_record`: what holds of every record that is read;
* `Written`, `record_of_written`, `recordOnce_of_written`: entries in the order of fields, and what
  they are read as;
* `Written.text?` and its kin: one step for each way to write a field;
* `definitions_of_items`, `expansions_of_ascending`: lists of definitions, and prefixes.
-/

namespace SchemaPages

open Reader

/-! ## 1. What reading keeps -/

section Steps

variable {ε α β : Type}

/-- A step that succeeds and is followed by another succeeds first. -/
theorem exists_of_bind_ok {x : Except ε α} {f : α → Except ε β} {b : β} (h : (x >>= f) = .ok b) :
    ∃ a, x = .ok a ∧ f a = .ok b := by
  cases x with
  | error e => cases h
  | ok a => exact ⟨a, rfl, h⟩

theorem exists_of_map_ok {x : Except ε α} {f : α → β} {b : β} (h : x.map f = .ok b) :
    ∃ a, x = .ok a ∧ f a = b := by
  cases x with
  | error e => cases h
  | ok a => exact ⟨a, rfl, Except.ok.inj h⟩

theorem mapError_ok_iff {δ : Type} {f : ε → δ} {x : Except ε α} {a : α} :
    x.mapError f = .ok a ↔ x = .ok a := by
  cases x <;> simp [Except.mapError]

theorem mapM_cons_ok_iff {f : α → Except ε β} {a : α} {l : List α} {bs : List β} :
    (a :: l).mapM f = .ok bs ↔ ∃ b later, f a = .ok b ∧ l.mapM f = .ok later ∧ bs = b :: later := by
  rw [List.mapM_cons]
  constructor
  · intro h
    obtain ⟨b, made, h⟩ := exists_of_bind_ok h
    obtain ⟨later, others, h⟩ := exists_of_bind_ok h
    exact ⟨b, later, made, others, (Except.ok.inj h).symm⟩
  · rintro ⟨b, later, made, others, rfl⟩
    rw [made, others]
    rfl

/-- Steps that are each another step and then a function are those steps and then the function. -/
theorem mapM_of_each {γ : Type} {f : α → Except ε β} {g : α → Except ε γ} {k : γ → β}
    (each : ∀ a b, f a = .ok b → ∃ c, g a = .ok c ∧ b = k c) {l : List α} {bs : List β}
    (h : l.mapM f = .ok bs) : ∃ cs, l.mapM g = .ok cs ∧ bs = cs.map k := by
  induction l generalizing bs with
  | nil =>
      cases h
      exact ⟨[], rfl, rfl⟩
  | cons a rest ih =>
      obtain ⟨b, later, made, others, rfl⟩ := mapM_cons_ok_iff.mp h
      obtain ⟨c, first, rfl⟩ := each a b made
      obtain ⟨cs, rest', rfl⟩ := ih others
      exact ⟨c :: cs, mapM_cons_ok_iff.mpr ⟨c, cs, first, rest', rfl⟩, rfl⟩

theorem length_of_mapM_ok {f : α → Except ε β} {l : List α} {bs : List β} (h : l.mapM f = .ok bs) :
    bs.length = l.length := by
  induction l generalizing bs with
  | nil => cases h; rfl
  | cons a rest ih =>
      obtain ⟨b, later, _, others, rfl⟩ := mapM_cons_ok_iff.mp h
      rw [List.length_cons, List.length_cons, ih others]

/-- What a step of a list makes stands in what the list makes. -/
theorem exists_split_of_mapM_ok {f : α → Except ε β} {l : List α} {bs : List β}
    (h : l.mapM f = .ok bs) {a : α} (ha : a ∈ l) :
    ∃ before b after, bs = before ++ b :: after ∧ f a = .ok b := by
  induction l generalizing bs with
  | nil => cases ha
  | cons x rest ih =>
      obtain ⟨b, later, made, others, rfl⟩ := mapM_cons_ok_iff.mp h
      rcases List.mem_cons.mp ha with rfl | ha
      · exact ⟨[], b, later, rfl, made⟩
      · obtain ⟨before, c, after, rfl, found⟩ := ih others ha
        exact ⟨b :: before, c, after, rfl, found⟩

/-- Whatever a list of steps makes is made by one of them. -/
theorem exists_of_mapM_ok {f : α → Except ε β} {l : List α} {bs : List β} (h : l.mapM f = .ok bs)
    {b : β} (hb : b ∈ bs) : ∃ a ∈ l, f a = .ok b := by
  induction l generalizing bs with
  | nil => cases h; cases hb
  | cons a rest ih =>
      obtain ⟨x, xs, made, later, rfl⟩ := mapM_cons_ok_iff.mp h
      rcases List.mem_cons.mp hb with rfl | hb
      · exact ⟨a, List.mem_cons_self, made⟩
      · obtain ⟨c, hc, made⟩ := ih later hb
        exact ⟨c, List.mem_cons_of_mem _ hc, made⟩

end Steps

section Keeping

variable {α β : Type} {P : α → Prop} {fields : List (Field α)} {a b : α}

/-- **A field keeps a property** of records, whatever value it is given. -/
def Field.Keeps (P : α → Prop) (f : Field α) : Prop := ∀ v a b, P a → f.assign v a = .ok b → P b

theorem keeps_field {key : String} {read : Reader β} {put : β → α → α}
    (h : ∀ v x a, read v = .ok x → P a → P (put x a)) : (field key read put).Keeps P := by
  intro v a b ha assigned
  obtain ⟨x, hx, rfl⟩ := exists_of_map_ok assigned
  exact h v x a hx ha

/-- By induction on the entries, each of which is given to a field or passed over. -/
theorem keeps_entries (h : ∀ f ∈ fields, f.Keeps P) {es : List (String × Value)} (ha : P a)
    (read : Reader.entries fields es a = .ok b) : P b := by
  induction es generalizing a with
  | nil => cases read; exact ha
  | cons e rest ih =>
      obtain ⟨k, v⟩ := e
      unfold Reader.entries at read
      cases found : fields.find? (·.key == k) with
      | none =>
          rw [found] at read
          exact ih ha read
      | some f =>
          rw [found] at read
          obtain ⟨next, assigned, later⟩ := exists_of_bind_ok read
          exact ih (h f (List.mem_of_find?_eq_some found) v a next ha assigned) later

theorem keeps_positions (h : ∀ f ∈ fields, f.Keeps P) {items : List Value} (ha : P a)
    (read : Reader.positions fields items a = .ok b) : P b := by
  induction fields generalizing items a with
  | nil =>
      unfold Reader.positions at read
      cases read
      exact ha
  | cons f fields ih =>
      cases items with
      | nil =>
          unfold Reader.positions at read
          cases read
          exact ha
      | cons v items =>
          unfold Reader.positions at read
          obtain ⟨next, step, later⟩ := exists_of_bind_ok read
          exact ih (fun g hg => h g (List.mem_cons_of_mem _ hg))
            (h f List.mem_cons_self v a next ha step) later

/-- **What holds of the empty record and is kept by every field holds of every record read**, from a
    mapping or from a list. -/
theorem keeps_record (h : ∀ f ∈ fields, f.Keeps P) {name : String} {empty : α} (start : P empty)
    {v : Value} (read : Reader.record name fields empty v = .ok b) : P b := by
  unfold Reader.record at read
  split at read
  · exact keeps_entries h start read
  · obtain ⟨a, placed, read⟩ := exists_of_bind_ok read
    split at read
    · cases read
    · cases read
      exact keeps_positions h start placed
  · cases read

/-- **What holds of everything that is read holds of definitions**: also of bare names, and whatever
    their names are. -/
theorem keeps_definitions {read : Reader α} {empty : α} {name : α → String} {rename : String → α → α}
    (h : ∀ v a, read v = .ok a → P a) (start : P empty) (renamed : ∀ n a, P a → P (rename n a))
    {v : Value} {l : List α} (hl : Reader.definitions read empty name rename v = .ok l) :
    ∀ a ∈ l, P a := by
  intro a ha
  unfold Reader.definitions at hl
  split at hl
  · cases hl; cases ha
  · obtain ⟨⟨key, w⟩, _, made⟩ := exists_of_mapM_ok hl ha
    dsimp only [namedEntry] at made
    obtain ⟨b, holds, rfl⟩ : ∃ b, P b ∧ (if name b = "" then rename key b else b) = a := by
      split at made
      · exact ⟨empty, start, Except.ok.inj made⟩
      · obtain ⟨b, found, made⟩ := exists_of_bind_ok made
        exact ⟨b, h _ b found, Except.ok.inj made⟩
      · obtain ⟨b, found, made⟩ := exists_of_bind_ok made
        exact ⟨b, h _ b found, Except.ok.inj made⟩
    split
    · exact renamed key b holds
    · exact holds
  · obtain ⟨w, _, made⟩ := exists_of_mapM_ok hl ha
    obtain ⟨b, found, made⟩ := exists_of_bind_ok made
    split at made
    · cases made
    · cases made
      exact h w a found
  · cases hl

theorem keeps_list {read : Reader α} (h : ∀ v a, read v = .ok a → P a) {v : Value} {l : List α}
    (hl : Reader.list read v = .ok l) : ∀ a ∈ l, P a := by
  intro a ha
  unfold Reader.list at hl
  split at hl
  · cases hl; cases ha
  · obtain ⟨w, _, made⟩ := exists_of_mapM_ok hl ha
    exact h w a made
  · cases hl

/-- What is set has been read from something else than nothing. -/
theorem exists_of_optional {read : Reader α} {v : Value} {o : Option α}
    (h : Reader.optional read v = .ok o) (ha : o = some a) : v ≠ .null ∧ read v = .ok a := by
  unfold Reader.optional at h
  split at h
  · cases h; cases ha
  · rename_i something
    obtain ⟨x, hx, rfl⟩ := exists_of_map_ok h
    cases ha
    exact ⟨something, hx⟩

theorem fits_of_natural {v : Value} {n : Nat} (h : Reader.natural v = .ok n) :
    Decimal.fitsUnsigned 64 n = true := by
  unfold Reader.natural at h
  split at h
  · rename_i i
    split at h
    · rename_i fits
      cases h
      have positive : 0 ≤ i := (of_decide_eq_true fits).1
      rwa [Int.toNat_of_nonneg positive]
    · cases h
  · cases h

theorem fits_of_whole {v : Value} {i : Int} (h : Reader.whole v = .ok i) :
    Decimal.fitsSigned 64 i = true := by
  unfold Reader.whole at h
  split at h
  · split at h
    · rename_i fits
      cases h
      exact fits
    · cases h
  · cases h

end Keeping

/-! ## 2. Entries in the order of fields -/

/-- **Entries written for fields, in their order**: a field has an entry, which changes the record as
    the field says, or it has none and there is nothing to change. -/
inductive Written {α : Type} : List (Field α) → List (String × Value) → α → α → Prop where
  | done {a b : α} (h : a = b) : Written [] [] a b
  | entry {f : Field α} {fields : List (Field α)} {v : Value} {es : List (String × Value)} {a b c : α}
      (h : f.assign v a = .ok b) (later : Written fields es b c) :
      Written (f :: fields) ((f.key, v) :: es) a c
  | skip {f : Field α} {fields : List (Field α)} {es : List (String × Value)} {a c : α}
      (later : Written fields es a c) : Written (f :: fields) es a c

section Reading

variable {α : Type} {all fields : List (Field α)} {es : List (String × Value)} {a b : α}

/-- By induction on the fields; the key of an entry finds its field, since no two have one key. -/
theorem entries_of_written (nodup : (all.map Field.key).Nodup) (h : Written fields es a b)
    (sub : ∀ f ∈ fields, f ∈ all) : Reader.entries all es a = .ok b := by
  induction h with
  | done h => rw [h]; rfl
  | @entry f fields v es a b c assigned _ ih =>
      have found : all.find? (·.key == f.key) = some f :=
        find?_name_of_mem nodup (sub f List.mem_cons_self)
      unfold Reader.entries
      simp only [found, assigned, bind, Except.bind]
      exact ih fun g hg => sub g (List.mem_cons_of_mem _ hg)
  | skip _ ih => exact ih fun g hg => sub g (List.mem_cons_of_mem _ hg)

/-- **What is written for the fields of a record is read as the record.** The entries are followed by
    none, so that those of the last field stand before others too. -/
theorem record_of_written (nodup : (fields.map Field.key).Nodup) (name : String) {empty : α}
    (h : Written fields (es ++ []) empty b) : Reader.record name fields empty (.obj es) = .ok b := by
  rw [List.append_nil] at h
  exact entries_of_written nodup h fun _ hf => hf

/-- The keys of the entries are those of fields, in their order. -/
theorem keys_of_written (h : Written fields es a b) :
    (es.map (·.1)).Sublist (fields.map Field.key) := by
  induction h with
  | done _ => exact List.Sublist.refl []
  | entry _ _ ih => exact ih.cons_cons _
  | skip _ ih => exact ih.cons _

theorem repeated?_of_nodup {keys : List String} (h : (es.map (·.1)).Nodup) :
    repeated? keys es = none := by
  induction es with
  | nil => rfl
  | cons e rest ih =>
      obtain ⟨k, v⟩ := e
      obtain ⟨fresh, later⟩ := List.nodup_cons.mp h
      have once : ¬ (k ∈ keys ∧ rest.any (·.1 == k) = true) := by
        rintro ⟨_, twice⟩
        obtain ⟨e, there, same⟩ := List.any_eq_true.mp twice
        exact fresh (List.mem_map.mpr ⟨e, there, beq_iff_eq.mp same⟩)
      rw [repeated?, if_neg once]
      exact ih later

/-- **So it is where no field may be given twice**: none of them has two entries. -/
theorem recordOnce_of_written (nodup : (fields.map Field.key).Nodup) (name : String) {empty : α}
    (h : Written fields es empty b) : Reader.recordOnce name fields empty (.obj es) = .ok b := by
  have once : repeated? (fields.map Field.key) es = none :=
    repeated?_of_nodup ((keys_of_written h).nodup nodup)
  unfold Reader.recordOnce
  dsimp only
  rw [once]
  exact entries_of_written nodup h fun _ hf => hf

end Reading

/-! ## 3. Ways to write a field -/

namespace Written

variable {α β : Type} {fields : List (Field α)} {es : List (String × Value)} {a c : α} {key : String}

theorem always {read : Reader β} {put : β → α → α} {v : Value} {x : β} (h : read v = .ok x)
    (later : Written fields es (put x a) c) :
    Written (field key read put :: fields) (Entry.always key v ++ es) a c := by
  refine entry (f := field key read put) ?_ later
  simp only [field, h]
  rfl

/-- What may be set is written if it is. -/
theorem ifSome {read : Reader β} {write : β → Value} {put : Option β → α → α} {o : Option β}
    (h : ∀ x, o = some x → Reader.optional read (write x) = .ok (some x)) (unset : put none a = a)
    (later : Written fields es (put o a) c) :
    Written (field key (.optional read) put :: fields) (Entry.ifSome key write o ++ es) a c := by
  cases o with
  | none =>
      rw [unset] at later
      exact skip later
  | some x => exact always (h x rfl) later

theorem text? {put : Option String → α → α} {o : Option String} (unset : put none a = a)
    (later : Written fields es (put o a) c) :
    Written (field key (.optional .text) put :: fields) (Entry.text? key o ++ es) a c :=
  ifSome (fun _ _ => rfl) unset later

theorem switch? {put : Option Bool → α → α} {o : Option Bool} (unset : put none a = a)
    (later : Written fields es (put o a) c) :
    Written (field key (.optional .switch) put :: fields) (Entry.switch? key o ++ es) a c :=
  ifSome (fun _ _ => rfl) unset later

theorem number? {put : Option Number → α → α} {o : Option Number} (unset : put none a = a)
    (later : Written fields es (put o a) c) :
    Written (field key (.optional .number) put :: fields) (Entry.number? key o ++ es) a c :=
  ifSome (fun _ _ => rfl) unset later

theorem natural? {put : Option Nat → α → α} {o : Option Nat}
    (fits : ∀ n, o = some n → Decimal.fitsUnsigned 64 n = true) (unset : put none a = a)
    (later : Written fields es (put o a) c) :
    Written (field key (.optional .natural) put :: fields) (Entry.natural? key o ++ es) a c := by
  refine ifSome (fun n hn => ?_) unset later
  have taken : Reader.natural (.ofNat n) = .ok n := by
    unfold Reader.natural Value.ofNat
    dsimp only
    rw [if_pos (fits n hn), Int.toNat_natCast]
  show (Reader.natural (.ofNat n)).map some = _
  rw [taken]
  rfl

theorem whole? {put : Option Int → α → α} {o : Option Int}
    (fits : ∀ i, o = some i → Decimal.fitsSigned 64 i = true) (unset : put none a = a)
    (later : Written fields es (put o a) c) :
    Written (field key (.optional .whole) put :: fields) (Entry.whole? key o ++ es) a c := by
  refine ifSome (fun i hi => ?_) unset later
  have taken : Reader.whole (.num (.int i)) = .ok i := by
    unfold Reader.whole
    dsimp only
    rw [if_pos (fits i hi)]
  show (Reader.whole (.num (.int i))).map some = _
  rw [taken]
  rfl

/-- A document that is set is written as it stands, which is not nothing. -/
theorem document? {put : Option Value → α → α} {o : Option Value}
    (something : ∀ v, o = some v → v ≠ .null) (unset : put none a = a)
    (later : Written fields es (put o a) c) :
    Written (field key (.optional .document) put :: fields) (Entry.ifSome key id o ++ es) a c := by
  refine ifSome (fun v hv => ?_) unset later
  have present := something v hv
  cases v with
  | null => exact absurd rfl present
  | _ => rfl

theorem ifOn {put : Bool → α → α} {on : Bool} (unset : put false a = a)
    (later : Written fields es (put on a) c) :
    Written (field key .switch put :: fields) (Entry.ifOn key on ++ es) a c := by
  cases on with
  | false =>
      rw [unset] at later
      exact skip later
  | true => exact always rfl later

/-- A list is written unless it is empty. -/
theorem ifAny {read : Reader (List β)} {write : β → Value} {put : List β → α → α} {l : List β}
    (h : read (.arr (l.map write)) = .ok l) (unset : put [] a = a)
    (later : Written fields es (put l a) c) :
    Written (field key read put :: fields) (Entry.ifAny key write l ++ es) a c := by
  cases l with
  | nil =>
      rw [unset] at later
      exact skip later
  | cons x rest => exact always h later

theorem texts {put : List String → α → α} {l : List String} (unset : put [] a = a)
    (later : Written fields es (put l a) c) :
    Written (field key .texts put :: fields) (Entry.texts key l ++ es) a c := by
  refine ifAny (congrArg Except.ok ?_) unset later
  rw [List.map_map]
  exact List.map_id l

end Written

/-! ## 4. Lists of records -/

section Lists

variable {α β : Type} {read : Reader α} {write : α → Value} {l : List α}

/-- Steps that undo what has been done to the items of a list undo it for the list. -/
theorem mapM_map_ok {ε : Type} {f : β → Except ε α} {g : α → β} (h : ∀ a ∈ l, f (g a) = .ok a) :
    (l.map g).mapM f = .ok l := by
  induction l with
  | nil => rfl
  | cons a rest ih =>
      rw [List.map_cons, List.mapM_cons, h a List.mem_cons_self,
        ih fun b hb => h b (List.mem_cons_of_mem _ hb)]
      rfl

theorem list_of_items (h : ∀ a ∈ l, read (write a) = .ok a) :
    Reader.list read (.arr (l.map write)) = .ok l :=
  mapM_map_ok h

/-- **Definitions are read back from a list** if each of them is, and has a name. -/
theorem definitions_of_items {empty : α} {name : α → String} {rename : String → α → α}
    (h : ∀ a ∈ l, read (write a) = .ok a ∧ name a ≠ "") :
    Reader.definitions read empty name rename (.arr (l.map write)) = .ok l := by
  refine mapM_map_ok fun a ha => ?_
  obtain ⟨back, named⟩ := h a ha
  unfold namedItem
  rw [back]
  exact if_neg named

end Lists

/-! ## 5. Prefixes -/

/-- Entries in the order of their keys, none of which comes twice. -/
def Ascending (l : List (String × String)) : Prop := l.Pairwise fun a b => a.1 < b.1

section Prefixes

variable {key value : String} {l : List (String × String)}

theorem mem_insertSorted {x : String × String} (h : x ∈ insertSorted key value l) :
    x = (key, value) ∨ x ∈ l := by
  induction l with
  | nil => exact Or.inl (List.mem_singleton.mp h)
  | cons e rest ih =>
      obtain ⟨k, v⟩ := e
      unfold insertSorted at h
      split at h
      · rename_i same
        rcases List.mem_cons.mp h with rfl | h
        · exact Or.inl (by rw [same])
        · exact Or.inr (List.mem_cons_of_mem _ h)
      · split at h
        · exact List.mem_cons.mp h
        · rcases List.mem_cons.mp h with rfl | h
          · exact Or.inr List.mem_cons_self
          · exact (ih h).imp id (List.mem_cons_of_mem _)

/-- **Inserting keeps the order.** -/
theorem ascending_insertSorted (h : Ascending l) : Ascending (insertSorted key value l) := by
  induction l with
  | nil => exact List.pairwise_singleton _ _
  | cons e rest ih =>
      obtain ⟨k, v⟩ := e
      obtain ⟨first, later⟩ := List.pairwise_cons.mp h
      unfold insertSorted
      split
      · exact List.pairwise_cons.mpr ⟨first, later⟩
      · rename_i other
        split
        · rename_i before
          refine List.pairwise_cons.mpr ⟨fun x hx => ?_, h⟩
          rcases List.mem_cons.mp hx with rfl | hx
          · exact before
          · exact String.lt_trans before (first x hx)
        · rename_i behind
          refine List.pairwise_cons.mpr ⟨fun x hx => ?_, ih later⟩
          rcases mem_insertSorted hx with rfl | hx
          · exact Classical.byContradiction fun h =>
              other (String.le_antisymm (String.not_lt.mp behind) (String.not_lt.mp h))
          · exact first x hx

/-- What comes after all keys is inserted at the end. -/
theorem insertSorted_last (h : ∀ x ∈ l, x.1 < key) : insertSorted key value l = l ++ [(key, value)] := by
  induction l with
  | nil => rfl
  | cons e rest ih =>
      obtain ⟨k, v⟩ := e
      have before : k < key := h (k, v) List.mem_cons_self
      have other : k ≠ key := fun same => String.lt_irrefl key (same ▸ before)
      have not_behind : ¬ key < k := fun behind => String.lt_irrefl k (String.lt_trans before behind)
      unfold insertSorted
      rw [if_neg other, if_neg not_behind, ih fun x hx => h x (List.mem_cons_of_mem _ hx)]
      rfl

theorem ascending_of_expansions {v : Value} (h : Reader.expansions v = .ok l) : Ascending l := by
  have general : ∀ (es : List (String × Value)) (found l : List (String × String)),
      Ascending found → es.foldlM (fun found x =>
        (expansion x.1 x.2).map fun e => insertSorted x.1 e found) found = .ok l → Ascending l := by
    intro es
    induction es with
    | nil => intro found l sorted done; cases done; exact sorted
    | cons e rest ih =>
        intro found l sorted done
        rw [List.foldlM_cons] at done
        obtain ⟨next, inserted, later⟩ := exists_of_bind_ok done
        obtain ⟨x, _, rfl⟩ := exists_of_map_ok inserted
        exact ih _ l (ascending_insertSorted sorted) later
  unfold Reader.expansions at h
  split at h
  · cases h
    exact List.Pairwise.nil
  · exact general _ [] l List.Pairwise.nil h
  · cases h

/-- **Prefixes in the order of their keys are read back**: by induction on those not inserted yet, each
    of which comes after all that are. -/
theorem expansions_of_ascending (h : Ascending l) :
    Reader.expansions (.obj (l.map fun x => (x.1, .str x.2))) = .ok l := by
  have general : ∀ (rest found : List (String × String)), Ascending (found ++ rest) →
      (rest.map fun x => (x.1, Value.str x.2)).foldlM (fun found x =>
        (expansion x.1 x.2).map fun e => insertSorted x.1 e found) found = .ok (found ++ rest) := by
    intro rest
    induction rest with
    | nil => intro found _; rw [List.append_nil]; rfl
    | cons e rest ih =>
        intro found sorted
        obtain ⟨k, x⟩ := e
        have last : insertSorted k x found = found ++ [(k, x)] :=
          insertSorted_last fun y hy =>
            (List.pairwise_append.mp sorted).2.2 y hy (k, x) List.mem_cons_self
        have step : (expansion k (.str x)).map (fun e => insertSorted k e found) =
            .ok (found ++ [(k, x)]) := congrArg Except.ok last
        rw [List.map_cons, List.foldlM_cons]
        dsimp only
        rw [step]
        have next := ih (found ++ [(k, x)]) (by rwa [List.append_assoc])
        rwa [List.append_assoc] at next
  exact general l [] h

end Prefixes

end SchemaPages
