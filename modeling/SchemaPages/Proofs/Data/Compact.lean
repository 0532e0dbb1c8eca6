import SchemaPages.Data.Json.Printer
/-!
# Compact JSON stays on its line

Strings escape what stands before the blank among the characters, and nothing else in compact JSON
is such a character. So there are no line breaks, tabs and the like, whatever a value holds.

* `Printed`: characters of which none is a control character;
* `printed_write`, `printed_numberText`: numbers;
* `printed_quote`, `printed_compact`: strings, and values.
-/

namespace SchemaPages

/-! ## 1. Printed characters -/

/-- The first character that is no control character. -/
def firstPrinted : Nat := 0x20

/-- **Characters that stay on a line**: none of them is a control character. -/
def Printed (cs : List Char) : Prop := ∀ c ∈ cs, firstPrinted ≤ c.toNat

instance (cs : List Char) : Decidable (Printed cs) :=
  List.decidableBAll (fun c : Char => firstPrinted ≤ c.toNat) cs

section Characters

variable {c : Char} {cs ds : List Char}

@[simp] theorem printed_nil : Printed [] := List.forall_mem_nil _

@[simp] theorem printed_cons_iff : Printed (c :: cs) ↔ firstPrinted ≤ c.toNat ∧ Printed cs :=
  List.forall_mem_cons

@[simp] theorem printed_append_iff : Printed (cs ++ ds) ↔ Printed cs ∧ Printed ds :=
  List.forall_mem_append

end Characters

/-! ## 2. Numbers -/

theorem printed_digits (n : Nat) : Printed (Nat.toDigits 10 n) := by
  intro c hc
  have digit := Nat.isDigit_of_mem_toDigits (by decide) (by decide) hc
  exact Nat.le_trans (by decide) (Char.isDigit_iff_toNat.mp digit).1

theorem printed_toString (n : Nat) : Printed (toString n).toList := by
  show Printed (Nat.repr n).toList
  rw [Nat.toList_repr]
  exact printed_digits n

namespace Decimal

theorem printed_zeros (n : Nat) : Printed (zeros n) := by
  intro c hc
  rw [List.eq_of_mem_replicate hc]
  decide

theorem printed_plainDigits {digits : List Char} (h : Printed digits) (lead : Int) :
    Printed (plainDigits digits lead) := by
  unfold plainDigits
  split
  · simp [firstPrinted, printed_zeros, h]
  · dsimp only
    split
    · simp [firstPrinted, printed_zeros, h]
    · rw [printed_append_iff, printed_cons_iff]
      exact ⟨fun c hc => h c (List.mem_of_mem_take hc), by decide,
        fun c hc => h c (List.mem_of_mem_drop hc)⟩

theorem printed_exponentDigits (l : Layout) {digits : List Char} (h : Printed digits) (lead : Int) :
    Printed (exponentDigits l digits lead) := by
  have sign : Printed (if lead < 0 then ['-'] else if l.signedExponent then ['+'] else []) := by
    split
    · decide
    · split <;> decide
  unfold exponentDigits
  dsimp only
  rw [printed_append_iff, printed_append_iff, printed_cons_iff]
  refine ⟨⟨?_, by decide, sign⟩, printed_digits _⟩
  split
  · exact printed_nil
  · exact h
  · rename_i d rest _
    rw [printed_cons_iff] at h
    exact printed_cons_iff.mpr ⟨h.1, printed_cons_iff.mpr ⟨by decide, h.2⟩⟩

/-- **A double is written in printed characters**, whatever its layout. -/
theorem printed_write (l : Layout) (bits : UInt64) : Printed (l.write bits).toList := by
  unfold Layout.write
  dsimp only
  rw [String.toList_ofList, printed_append_iff]
  constructor
  · split <;> decide
  · split
    · decide
    · split
      · exact printed_plainDigits (printed_digits _) _
      · exact printed_exponentDigits l (printed_digits _) _

end Decimal

namespace Json

theorem printed_numberText (n : Number) : Printed (numberText n).toList := by
  cases n with
  | int i =>
      cases i with
      | ofNat n => exact printed_toString n
      | negSucc n =>
          show Printed ("-" ++ toString (n + 1)).toList
          rw [String.toList_append, printed_append_iff]
          exact ⟨by decide, printed_toString _⟩
  | float bits => exact Decimal.printed_write layout bits

/-! ## 3. Strings and values -/

theorem printed_hex4 : ∀ n < firstPrinted, Printed (hex4 n) := by decide

theorem printed_escapeLetter {c letter : Char} (h : escapeLetter? c = some letter) :
    firstPrinted ≤ letter.toNat := by
  unfold escapeLetter? at h
  split at h <;> cases h <;> decide

/-- **What stands for a character in a string is printed**: control characters are escaped. -/
theorem printed_escapedChar (c : Char) : Printed (escapedChar c) := by
  unfold escapedChar
  split
  · rename_i letter escaped
    exact printed_cons_iff.mpr
      ⟨by decide, printed_cons_iff.mpr ⟨printed_escapeLetter escaped, printed_nil⟩⟩
  · split
    · rename_i control
      exact printed_cons_iff.mpr
        ⟨by decide, printed_cons_iff.mpr ⟨by decide, printed_hex4 _ control⟩⟩
    · rename_i plain
      exact printed_cons_iff.mpr ⟨Nat.le_of_not_lt plain, printed_nil⟩

theorem printed_quote (s : String) : Printed (quote s).toList := by
  unfold quote
  rw [String.toList_ofList, printed_append_iff, printed_cons_iff]
  refine ⟨⟨by decide, fun c hc => ?_⟩, by decide⟩
  obtain ⟨d, _, made⟩ := List.mem_flatMap.mp hc
  exact printed_escapedChar d c made

mutual

/-- **Compact JSON is printed**, whatever the value holds; one case for each kind of value. -/
theorem printed_compact : ∀ v : Value, Printed (compact v).toList
  | .null => by rw [compact]; decide
  | .bool b => by cases b <;> decide
  | .num n => by rw [compact]; exact printed_numberText n
  | .str s => by rw [compact]; exact printed_quote s
  | .arr items => by
      rw [compact, String.toList_append, String.toList_append, printed_append_iff,
        printed_append_iff]
      exact ⟨⟨by decide, printed_compactItems items⟩, by decide⟩
  | .obj entries => by
      rw [compact, String.toList_append, String.toList_append, printed_append_iff,
        printed_append_iff]
      exact ⟨⟨by decide, printed_compactEntries entries⟩, by decide⟩

theorem printed_compactItems : ∀ items : List Value, Printed (compactItems items).toList
  | [] => by rw [compactItems]; decide
  | [v] => by rw [compactItems]; exact printed_compact v
  | v :: w :: rest => by
      have later := printed_compactItems (w :: rest)
      rw [compactItems, String.toList_append, String.toList_append, printed_append_iff,
        printed_append_iff]
      · exact ⟨⟨printed_compact v, by decide⟩, later⟩
      · exact List.cons_ne_nil w rest

theorem printed_compactEntries :
    ∀ entries : List (String × Value), Printed (compactEntries entries).toList
  | [] => by rw [compactEntries]; decide
  | [(k, v)] => by
      rw [compactEntries]
      simp only [String.toList_append, printed_append_iff]
      exact ⟨⟨printed_quote k, by decide⟩, printed_compact v⟩
  | (k, v) :: e :: rest => by
      have later := printed_compactEntries (e :: rest)
      rw [compactEntries]
      · simp only [String.toList_append, printed_append_iff]
        exact ⟨⟨⟨⟨printed_quote k, by decide⟩, printed_compact v⟩, by decide⟩, later⟩
      · exact List.cons_ne_nil e rest

end

end Json

end SchemaPages
