import Mathlib.Tactic.MkIffOfInductiveProp
import SchemaPages.Proofs.Data.Records
import SchemaPages.Schema.Basic
/-!
# Schemas read back

A schema is read from documents of many forms and written in one: definitions as lists, nothing for
what is not set. What is written is read as the same schema, as long as everything in a list has a
name, since a list is not read otherwise.

* `Slot.Readable` and its kin: what holds of definitions that have been read, and makes them readable
  when they are written;
* `Slot.read_toValue` and its kin: definitions read back;
* `Schema.stamp_stamp`: a second stamp changes nothing;
* `Schema.round_trip`: schemas read back.
-/

namespace SchemaPages

/-- Whether a rank that is set is a whole number of 64 bits. -/
def RankFits (rank : Option Int) : Prop := ∀ i, rank = some i → Decimal.fitsSigned 64 i = true

/-- Whether a cardinality that is set is a natural number of 64 bits. -/
def CardinalityFits (n : Option Nat) : Prop := ∀ m, n = some m → Decimal.fitsUnsigned 64 m = true

theorem rankFits_none : RankFits none := nofun

theorem rankFits_of_read {v : Value} {o : Option Int} (h : Reader.optional .whole v = .ok o) :
    RankFits o :=
  fun _ hi => fits_of_whole (exists_of_optional h hi).2

theorem cardinalityFits_of_read {v : Value} {o : Option Nat}
    (h : Reader.optional .natural v = .ok o) : CardinalityFits o :=
  fun _ hn => fits_of_natural (exists_of_optional h hn).2

/-! ## 1. Slots -/

namespace Slot

/-- **What holds of every slot that has been read**: its numbers fit, and nobody has noted the classes
    that declare it. -/
structure Readable (s : Slot) : Prop where
  minimum : CardinalityFits s.minimumCardinality
  maximum : CardinalityFits s.maximumCardinality
  exactly : CardinalityFits s.exactCardinality
  rank : RankFits s.rank
  domainOf : s.domainOf = []

theorem readable_empty : Readable {} := ⟨nofun, nofun, nofun, nofun, rfl⟩

theorem readable_rename {s : Slot} (h : s.Readable) (n : String) : Readable { s with name := n } :=
  ⟨h.minimum, h.maximum, h.exactly, h.rank, h.domainOf⟩

theorem readable_originate {s : Slot} (h : s.Readable) (o : Option String) :
    Readable { s with fromSchema := o } :=
  ⟨h.minimum, h.maximum, h.exactly, h.rank, h.domainOf⟩

theorem readable_fields : ∀ f ∈ fields, f.Keeps Readable := by
  unfold fields
  repeat' refine List.forall_mem_cons.mpr ⟨?_, ?_⟩
  -- All fields but four leave alone what has to hold.
  all_goals
    try exact keeps_field fun _ _ _ _ h => ⟨h.minimum, h.maximum, h.exactly, h.rank, h.domainOf⟩
  · exact keeps_field fun _ _ _ hx h =>
      ⟨cardinalityFits_of_read hx, h.maximum, h.exactly, h.rank, h.domainOf⟩
  · exact keeps_field fun _ _ _ hx h =>
      ⟨h.minimum, cardinalityFits_of_read hx, h.exactly, h.rank, h.domainOf⟩
  · exact keeps_field fun _ _ _ hx h =>
      ⟨h.minimum, h.maximum, cardinalityFits_of_read hx, h.rank, h.domainOf⟩
  · exact keeps_field fun _ _ _ hx h =>
      ⟨h.minimum, h.maximum, h.exactly, rankFits_of_read hx, h.domainOf⟩
  · exact List.forall_mem_nil _

theorem readable_of_read {v : Value} {s : Slot} (h : Slot.read v = .ok s) : s.Readable :=
  keeps_record readable_fields readable_empty h

theorem written {s : Slot} (h : s.Readable) : Written fields (s.entries ++ []) {} s := by
  have whole : { s with domainOf := [] } = s := by rw [← h.domainOf]
  unfold fields entries
  simp only [List.append_assoc]
  exact .always rfl <| .text? rfl <| .text? rfl <| .texts rfl <| .texts rfl <| .text? rfl <|
    .texts rfl <| .text? rfl <| .text? rfl <| .text? rfl <| .switch? rfl <| .switch? rfl <|
    .switch? rfl <| .switch? rfl <| .switch? rfl <| .switch? rfl <| .natural? h.minimum rfl <|
    .natural? h.maximum rfl <| .natural? h.exactly rfl <| .number? rfl <| .number? rfl <|
    .text? rfl <| .whole? h.rank rfl <| .texts rfl <| .text? rfl <| .text? rfl <| .done whole

/-- **A slot is read back.** -/
theorem read_toValue {s : Slot} (h : s.Readable) : Slot.read s.toValue = .ok s :=
  record_of_written (by decide) "SlotDefinition" (written h)

/-- Slots of a schema or of a class that have been read are readable. -/
theorem readable_of_slots {v : Value} {l : List Slot} (h : Reader.slots v = .ok l) :
    ∀ s ∈ l, s.Readable :=
  keeps_definitions (fun _ _ => readable_of_read) readable_empty
    (fun n _ h => readable_rename h n) h

/-- Slots with names are read back from a list. -/
theorem slots_toValue {l : List Slot} (h : ∀ s ∈ l, s.Readable) (named : ∀ s ∈ l, s.name ≠ "") :
    Reader.slots (.arr (l.map Slot.toValue)) = .ok l :=
  definitions_of_items fun s hs => ⟨read_toValue (h s hs), named s hs⟩

end Slot

/-! ## 2. Classes -/

namespace Rule

/-- **What holds of every rule that has been read**: a condition that is set is something. -/
structure Readable (r : Rule) : Prop where
  pre : ∀ v, r.preconditions = some v → v ≠ .null
  post : ∀ v, r.postconditions = some v → v ≠ .null
  otherwise : ∀ v, r.elseconditions = some v → v ≠ .null

theorem something_of_read {v : Value} {o : Option Value} (h : Reader.optional .document v = .ok o) :
    ∀ w, o = some w → w ≠ .null := by
  intro w hw
  obtain ⟨something, read⟩ := exists_of_optional h hw
  cases read
  exact something

theorem readable_fields : ∀ f ∈ fields, f.Keeps Readable := by
  unfold fields
  repeat' refine List.forall_mem_cons.mpr ⟨?_, ?_⟩
  all_goals try exact keeps_field fun _ _ _ _ h => ⟨h.pre, h.post, h.otherwise⟩
  · exact keeps_field fun _ _ _ hx h => ⟨something_of_read hx, h.post, h.otherwise⟩
  · exact keeps_field fun _ _ _ hx h => ⟨h.pre, something_of_read hx, h.otherwise⟩
  · exact keeps_field fun _ _ _ hx h => ⟨h.pre, h.post, something_of_read hx⟩
  · exact List.forall_mem_nil _

theorem readable_empty : Readable {} := ⟨nofun, nofun, nofun⟩

theorem readable_of_read {v : Value} {r : Rule} (h : Rule.read v = .ok r) : r.Readable :=
  keeps_record readable_fields readable_empty h

/-- **A rule is read back.** -/
theorem read_toValue {r : Rule} (h : r.Readable) : Rule.read r.toValue = .ok r := by
  refine record_of_written (by decide) "ClassRule" ?_
  unfold fields
  simp only [List.append_assoc]
  exact .text? rfl <| .text? rfl <| .document? h.pre rfl <| .document? h.post rfl <|
    .document? h.otherwise rfl <| .ifOn rfl <| .ifOn rfl <| .done rfl

end Rule

namespace Class

/-- **What holds of every class that has been read**, as of what it holds. -/
structure Readable (c : Class) : Prop where
  attributes : ∀ s ∈ c.attributes, s.Readable
  slotUsage : ∀ s ∈ c.slotUsage, s.Readable
  rules : ∀ r ∈ c.rules, r.Readable
  rank : RankFits c.rank

theorem readable_empty : Readable {} :=
  ⟨List.forall_mem_nil _, List.forall_mem_nil _, List.forall_mem_nil _, rankFits_none⟩

theorem readable_rename {c : Class} (h : c.Readable) (n : String) : Readable { c with name := n } :=
  ⟨h.attributes, h.slotUsage, h.rules, h.rank⟩

theorem readable_fields : ∀ f ∈ fields, f.Keeps Readable := by
  unfold fields
  repeat' refine List.forall_mem_cons.mpr ⟨?_, ?_⟩
  all_goals try exact keeps_field fun _ _ _ _ h => ⟨h.attributes, h.slotUsage, h.rules, h.rank⟩
  · exact keeps_field fun _ _ _ hx h => ⟨Slot.readable_of_slots hx, h.slotUsage, h.rules, h.rank⟩
  · exact keeps_field fun _ _ _ hx h => ⟨h.attributes, Slot.readable_of_slots hx, h.rules, h.rank⟩
  · exact keeps_field fun _ _ _ hx h =>
      ⟨h.attributes, h.slotUsage, keeps_list (fun _ _ => Rule.readable_of_read) hx, h.rank⟩
  · exact keeps_field fun _ _ _ hx h => ⟨h.attributes, h.slotUsage, h.rules, rankFits_of_read hx⟩
  · exact List.forall_mem_nil _

theorem readable_of_read {v : Value} {c : Class} (h : Class.read v = .ok c) : c.Readable :=
  keeps_record readable_fields readable_empty h

/-- The slots that stand in a class have names. -/
@[mk_iff]
structure Named (c : Class) : Prop where
  self : c.name ≠ ""
  attributes : ∀ s ∈ c.attributes, s.name ≠ ""
  slotUsage : ∀ s ∈ c.slotUsage, s.name ≠ ""

instance (c : Class) : Decidable c.Named := decidable_of_iff' _ (named_iff c)

/-- **A class is read back** if its attributes and refinements have names. -/
theorem read_toValue {c : Class} (h : c.Readable) (named : c.Named) :
    Class.read c.toValue = .ok c := by
  have attributes := Slot.slots_toValue h.attributes named.attributes
  have slotUsage := Slot.slots_toValue h.slotUsage named.slotUsage
  have rules : Reader.list Rule.read (.arr (c.rules.map Rule.toValue)) = .ok c.rules :=
    list_of_items fun r hr => Rule.read_toValue (h.rules r hr)
  refine record_of_written (by decide) "ClassDefinition" ?_
  unfold fields
  simp only [List.append_assoc]
  exact .always rfl <| .text? rfl <| .text? rfl <| .texts rfl <| .texts rfl <| .texts rfl <|
    .text? rfl <| .texts rfl <| .texts rfl <| .ifAny attributes rfl <| .ifAny slotUsage rfl <|
    .ifAny rules rfl <| .text? rfl <| .ifOn rfl <| .ifOn rfl <| .ifOn rfl <| .whole? h.rank rfl <|
    .texts rfl <| .text? rfl <| .text? rfl <| .done rfl

end Class

/-! ## 3. Types, enumerations and subsets -/

namespace DataType

/-- What holds of every type that has been read: its rank fits. -/
def Readable (t : DataType) : Prop := RankFits t.rank

theorem readable_empty : Readable {} := rankFits_none

theorem readable_rename {t : DataType} (h : t.Readable) (n : String) :
    Readable { t with name := n } :=
  h

theorem readable_fields : ∀ f ∈ fields, f.Keeps Readable := by
  unfold fields
  repeat' refine List.forall_mem_cons.mpr ⟨?_, ?_⟩
  all_goals try exact keeps_field fun _ _ _ _ h => h
  · exact keeps_field fun _ _ _ hx _ => rankFits_of_read hx
  · exact List.forall_mem_nil _

theorem readable_of_read {v : Value} {t : DataType} (h : DataType.read v = .ok t) : t.Readable :=
  keeps_record readable_fields readable_empty h

/-- **A type is read back.** -/
theorem read_toValue {t : DataType} (h : t.Readable) : DataType.read t.toValue = .ok t := by
  refine record_of_written (by decide) "TypeDefinition" ?_
  unfold fields
  simp only [List.append_assoc]
  exact .always rfl <| .text? rfl <| .text? rfl <| .text? rfl <| .text? rfl <| .text? rfl <|
    .text? rfl <| .text? rfl <| .number? rfl <| .number? rfl <| .whole? h rfl <| .texts rfl <|
    .text? rfl <| .done rfl

end DataType

/-- **A permissible value is read back.** -/
theorem PermissibleValue.read_toValue (p : PermissibleValue) :
    PermissibleValue.read p.toValue = .ok p := by
  refine record_of_written (by decide) "PermissibleValue" ?_
  unfold fields
  simp only [List.append_assoc]
  exact .always rfl <| .text? rfl <| .text? rfl <| .done rfl

namespace Enumeration

/-- What holds of every enumeration that has been read: its rank fits. -/
def Readable (e : Enumeration) : Prop := RankFits e.rank

theorem readable_empty : Readable {} := rankFits_none

theorem readable_rename {e : Enumeration} (h : e.Readable) (n : String) :
    Readable { e with name := n } :=
  h

theorem readable_fields : ∀ f ∈ fields, f.Keeps Readable := by
  unfold fields
  repeat' refine List.forall_mem_cons.mpr ⟨?_, ?_⟩
  all_goals try exact keeps_field fun _ _ _ _ h => h
  · exact keeps_field fun _ _ _ hx _ => rankFits_of_read hx
  · exact List.forall_mem_nil _

theorem readable_of_read {v : Value} {e : Enumeration} (h : Enumeration.read v = .ok e) :
    e.Readable :=
  keeps_record readable_fields readable_empty h

/-- The values of an enumeration have texts, and it has a name. -/
@[mk_iff]
structure Named (e : Enumeration) : Prop where
  self : e.name ≠ ""
  values : ∀ p ∈ e.permissibleValues, p.text ≠ ""

instance (e : Enumeration) : Decidable e.Named := decidable_of_iff' _ (named_iff e)

/-- **An enumeration is read back** if its values have texts. -/
theorem read_toValue {e : Enumeration} (h : e.Readable) (named : e.Named) :
    Enumeration.read e.toValue = .ok e := by
  have values : Reader.definitions PermissibleValue.read {} PermissibleValue.text
      (fun n p => { p with text := n }) (.arr (e.permissibleValues.map PermissibleValue.toValue)) =
        .ok e.permissibleValues :=
    definitions_of_items fun p hp => ⟨p.read_toValue, named.values p hp⟩
  refine record_of_written (by decide) "EnumDefinition" ?_
  unfold fields
  simp only [List.append_assoc]
  exact .always rfl <| .text? rfl <| .text? rfl <| .text? rfl <| .ifAny values rfl <|
    .whole? h rfl <| .texts rfl <| .text? rfl <| .done rfl

end Enumeration

namespace Subset

/-- What holds of every subset that has been read: its rank fits. -/
def Readable (t : Subset) : Prop := RankFits t.rank

theorem readable_empty : Readable {} := rankFits_none

theorem readable_rename {t : Subset} (h : t.Readable) (n : String) :
    Readable { t with name := n } :=
  h

theorem readable_fields : ∀ f ∈ fields, f.Keeps Readable := by
  unfold fields
  repeat' refine List.forall_mem_cons.mpr ⟨?_, ?_⟩
  all_goals try exact keeps_field fun _ _ _ _ h => h
  · exact keeps_field fun _ _ _ hx _ => rankFits_of_read hx
  · exact List.forall_mem_nil _

theorem readable_of_read {v : Value} {t : Subset} (h : Subset.read v = .ok t) : t.Readable :=
  keeps_record readable_fields readable_empty h

/-- **A subset is read back.** -/
theorem read_toValue {t : Subset} (h : t.Readable) : Subset.read t.toValue = .ok t := by
  refine record_of_written (by decide) "SubsetDefinition" ?_
  unfold fields
  simp only [List.append_assoc]
  exact .always rfl <| .text? rfl <| .text? rfl <| .whole? h rfl <| .text? rfl <| .done rfl

end Subset

/-! ## 4. Schemas -/

namespace Schema

/-- **What holds of every schema that has been read**, before and after its elements are stamped. -/
structure Readable (s : Schema) : Prop where
  prefixes : Ascending s.prefixes
  classes : ∀ c ∈ s.classes, c.Readable
  slots : ∀ t ∈ s.slots, t.Readable
  types : ∀ t ∈ s.types, t.Readable
  enums : ∀ e ∈ s.enums, e.Readable
  subsets : ∀ t ∈ s.subsets, t.Readable
  source : s.source = none

theorem readable_empty : Readable {} :=
  ⟨.nil, List.forall_mem_nil _, List.forall_mem_nil _, List.forall_mem_nil _, List.forall_mem_nil _,
    List.forall_mem_nil _, rfl⟩

theorem readable_fields : ∀ f ∈ fields, f.Keeps Readable := by
  unfold fields
  repeat' refine List.forall_mem_cons.mpr ⟨?_, ?_⟩
  all_goals
    try exact keeps_field fun _ _ _ _ h =>
      ⟨h.prefixes, h.classes, h.slots, h.types, h.enums, h.subsets, h.source⟩
  · exact keeps_field fun _ _ _ hx h =>
      ⟨ascending_of_expansions hx, h.classes, h.slots, h.types, h.enums, h.subsets, h.source⟩
  · refine keeps_field fun _ classes _ hx h =>
      ⟨h.prefixes, ?_, h.slots, h.types, h.enums, h.subsets, h.source⟩
    show ∀ c ∈ classes, c.Readable
    exact keeps_definitions (fun _ _ => Class.readable_of_read) Class.readable_empty
      (fun n _ h => Class.readable_rename h n) hx
  · exact keeps_field fun _ _ _ hx h =>
      ⟨h.prefixes, h.classes, Slot.readable_of_slots hx, h.types, h.enums, h.subsets, h.source⟩
  · refine keeps_field fun _ types _ hx h =>
      ⟨h.prefixes, h.classes, h.slots, ?_, h.enums, h.subsets, h.source⟩
    show ∀ t ∈ types, t.Readable
    exact keeps_definitions (fun _ _ => DataType.readable_of_read) DataType.readable_empty
      (fun n _ h => DataType.readable_rename h n) hx
  · refine keeps_field fun _ enums _ hx h =>
      ⟨h.prefixes, h.classes, h.slots, h.types, ?_, h.subsets, h.source⟩
    show ∀ e ∈ enums, e.Readable
    exact keeps_definitions (fun _ _ => Enumeration.readable_of_read) Enumeration.readable_empty
      (fun n _ h => Enumeration.readable_rename h n) hx
  · refine keeps_field fun _ subsets _ hx h =>
      ⟨h.prefixes, h.classes, h.slots, h.types, h.enums, ?_, h.source⟩
    show ∀ t ∈ subsets, t.Readable
    exact keeps_definitions (fun _ _ => Subset.readable_of_read) Subset.readable_empty
      (fun n _ h => Subset.readable_rename h n) hx
  · exact List.forall_mem_nil _

theorem readable_of_record {v : Value} {s : Schema}
    (h : Reader.record "SchemaDefinition" fields {} v = .ok s) : s.Readable :=
  keeps_record readable_fields readable_empty h

/-- Everything that a schema writes in a list has a name. -/
@[mk_iff]
structure Named (s : Schema) : Prop where
  classes : ∀ c ∈ s.classes, c.Named
  slots : ∀ t ∈ s.slots, t.name ≠ ""
  types : ∀ t ∈ s.types, t.name ≠ ""
  enums : ∀ e ∈ s.enums, e.Named
  subsets : ∀ t ∈ s.subsets, t.name ≠ ""

instance (s : Schema) : Decidable s.Named := decidable_of_iff' _ (named_iff s)

theorem written_prefixes {put : List (String × String) → Schema → Schema}
    {l : List (String × String)} {fields : List (Field Schema)} {es : List (String × Value)}
    {a c : Schema} (h : Ascending l) (unset : put [] a = a) (later : Written fields es (put l a) c) :
    Written (field "prefixes" .expansions put :: fields)
      ((if l = [] then [] else [("prefixes", .obj (l.map fun (k, e) => (k, .str e)))]) ++ es) a c := by
  split
  · rename_i empty
    subst empty
    rw [unset] at later
    exact .skip later
  · exact .always (expansions_of_ascending h) later

/-- A schema is read back as a record if what it writes in lists has names. -/
theorem record_toValue {s : Schema} (h : s.Readable) (named : s.Named) :
    Reader.record "SchemaDefinition" fields {} s.toValue = .ok s := by
  have classes : Reader.definitions Class.read {} Class.name (fun n c => { c with name := n })
      (.arr (s.classes.map Class.toValue)) = .ok s.classes :=
    definitions_of_items fun c hc =>
      ⟨Class.read_toValue (h.classes c hc) (named.classes c hc), (named.classes c hc).self⟩
  have types : Reader.definitions DataType.read {} DataType.name (fun n t => { t with name := n })
      (.arr (s.types.map DataType.toValue)) = .ok s.types :=
    definitions_of_items fun t ht => ⟨DataType.read_toValue (h.types t ht), named.types t ht⟩
  have enums : Reader.definitions Enumeration.read {} Enumeration.name
      (fun n e => { e with name := n }) (.arr (s.enums.map Enumeration.toValue)) = .ok s.enums :=
    definitions_of_items fun e he =>
      ⟨Enumeration.read_toValue (h.enums e he) (named.enums e he), (named.enums e he).self⟩
  have subsets : Reader.definitions Subset.read {} Subset.name (fun n t => { t with name := n })
      (.arr (s.subsets.map Subset.toValue)) = .ok s.subsets :=
    definitions_of_items fun t ht => ⟨Subset.read_toValue (h.subsets t ht), named.subsets t ht⟩
  have slots := Slot.slots_toValue h.slots named.slots
  have whole : { s with source := none } = s := by rw [← h.source]
  refine record_of_written (by decide) "SchemaDefinition" ?_
  unfold fields
  simp only [List.append_assoc]
  exact .always rfl <| .always rfl <| .text? rfl <| .text? rfl <| .text? rfl <| .text? rfl <|
    written_prefixes h.prefixes rfl <| .text? rfl <| .text? rfl <| .texts rfl <|
    .ifAny classes rfl <| .ifAny slots rfl <| .ifAny types rfl <| .ifAny enums rfl <|
    .ifAny subsets rfl <| .done whole

/-! ## 5. Stamps -/

/-- **A second stamp changes nothing.** -/
theorem stamp_stamp (s : Schema) : s.stamp.stamp = s.stamp := by
  have origin (o : Option String) : (o.or (some s.id)).or (some s.id) = o.or (some s.id) := by
    rw [Option.or_assoc, Option.or_self]
  unfold stamp
  simp only [List.map_map, Function.comp_def, origin]

theorem readable_stamp {s : Schema} (h : s.Readable) : s.stamp.Readable where
  prefixes := h.prefixes
  classes := List.forall_mem_map.mpr fun c hc =>
    have ⟨attributes, slotUsage, rules, rank⟩ := h.classes c hc
    ⟨List.forall_mem_map.mpr fun t ht => Slot.readable_originate (attributes t ht) _, slotUsage,
      rules, rank⟩
  slots := List.forall_mem_map.mpr fun t ht => Slot.readable_originate (h.slots t ht) _
  types := List.forall_mem_map.mpr h.types
  enums := List.forall_mem_map.mpr h.enums
  subsets := List.forall_mem_map.mpr h.subsets
  source := h.source

/-! ## 6. Schemas read back -/

/-- A mapping is a schema if it is a record with a name and an identifier, which is stamped. -/
theorem read_obj_iff {es : List (String × Value)} {s : Schema} :
    Schema.read (.obj es) = .ok s ↔
      ∃ r, Reader.record "SchemaDefinition" fields {} (.obj es) = .ok r ∧
        isBlankText r.name = false ∧ isBlankText r.id = false ∧ r.stamp = s := by
  unfold Schema.read
  cases hr : Reader.record "SchemaDefinition" fields {} (.obj es) with
  | error e => exact ⟨nofun, fun ⟨_, h, _⟩ => nomatch h⟩
  | ok r =>
      simp only [Except.mapError, bind, Except.bind, Except.ok.injEq, exists_eq_left']
      cases isBlankText r.name with
      | true => exact ⟨nofun, fun ⟨h, _⟩ => nomatch h⟩
      | false =>
          cases isBlankText r.id with
          | true => exact ⟨nofun, fun ⟨_, h, _⟩ => nomatch h⟩
          | false =>
              exact ⟨fun h => ⟨rfl, rfl, Except.ok.inj h⟩, fun ⟨_, _, h⟩ => congrArg Except.ok h⟩

/-- **Schemas are read back.** Whatever form a document has, what is written for its schema is read as
    the same schema, and has its stamps already, as long as what stands in lists has a name. -/
theorem round_trip {v : Value} {s : Schema} (h : Schema.read v = .ok s) (named : s.Named) :
    Schema.read s.toValue = .ok s ∧ s.stamp = s := by
  cases v with
  | obj es =>
      obtain ⟨r, read, name, id, rfl⟩ := read_obj_iff.mp h
      have readable := readable_stamp (readable_of_record read)
      have back := record_toValue readable named
      have stamped := stamp_stamp r
      exact ⟨read_obj_iff.mpr ⟨r.stamp, back, name, id, stamped⟩, stamped⟩
  | _ => cases h

/-- A document in the form of mappings, with classes that are nothing but a name or a description. -/
def placesDocument : Value :=
  .obj
    [("id", .str "https://example.org/places"), ("name", .str "places"),
     ("prefixes", .obj [("ex", .str "https://example.org/")]),
     ("classes", .obj [("Place", .null), ("City", .str "A large place")]),
     ("slots", .obj [("size", .obj [("rank", .num (.int 1))])])]

/-- The schema of that document. -/
def places : Schema :=
  { id := "https://example.org/places"
    name := "places"
    prefixes := [("ex", "https://example.org/")]
    classes :=
      [{ name := "Place", fromSchema := "https://example.org/places" },
       { name := "City", description := "A large place", fromSchema := "https://example.org/places" }]
    slots := [{ name := "size", rank := some 1, fromSchema := "https://example.org/places" }] }

theorem round_trip_places :
    Schema.read placesDocument = .ok places ∧ places.Named ∧
      Schema.read places.toValue = .ok places ∧ places.stamp = places := by
  have read : Schema.read placesDocument = .ok places := rfl
  have named : places.Named := by decide
  exact ⟨read, named, round_trip read named⟩

end Schema

end SchemaPages
