import SchemaPages.Proofs.Site.PageShapes
import SchemaPages.Proofs.Site.Writing
import SchemaPages.Template.Reader
/-!
# Rendering with the built-in templates

A site in Markdown with no directories of templates and examples has a text for every document of its
plan: there is a page for the document, a template for the page, and the template is admitted for what
the page holds. What is left to fail is the directory that the site goes to.

* `exists_page`: every document has a page of its template;
* `documentText_ok`: every document has a text;
* `Site.OutputError`: what has nothing to do with pages, on the files that the run has come to;
* `write_builtin`: what a run can fail of.
-/

namespace SchemaPages

open Template

/-! ## 1. Pages of documents -/

section Pages

variable {s : Site} {fs : FileSystem} {d : Document}

theorem examples_none (h : s.config.exampleDirectory = none) (cls : String) :
    s.examples fs cls = .ok [] := by
  unfold Site.examples
  rw [h]
  rfl

/-- **Without a directory of examples every document has a page of its template.** -/
theorem exists_page (fs : FileSystem) (hx : s.config.exampleDirectory = none)
    (hd : d ∈ s.plan.documents) :
    ∃ p, s.page? fs d.subject = .ok (some p) ∧ p.template = d.template := by
  rcases s.page_of_planned fs hd with found | ⟨cls, cause, failed, _⟩
  · exact found
  · rw [examples_none hx] at failed
    cases failed

end Pages

/-! ## 2. Templates of a plan -/

theorem mem_templateKinds {s : Site} {d : Document} (hd : d ∈ s.plan.documents) :
    d.template ∈ s.plan.templateKinds := by
  refine List.mem_filter.mpr ⟨?_, List.any_eq_true.mpr ⟨d, hd, beq_self_eq_true _⟩⟩
  cases d.template <;> decide

/-! ## 3. Texts of documents -/

/-- What a template can use for a page has the shapes that it is checked against. -/
theorem fits_templateNames (s : Site) (p : Page) :
    FieldsFit (s.templateNames (some p)) p.template.context :=
  .cons (fits_settings s) (.cons (fits_page s.config.format p) .nil)

/-- The templates for Markdown, with none of one's own. -/
def builtinSet (short : Bool) (kinds : List TemplateKind) : TemplateSet :=
  ⟨.markdown, short, [], kinds.map fun k => (k.fileName .markdown, k.builtin)⟩

/-- **A page has a text** if its template is among those loaded. -/
theorem render_builtin (s : Site) (short : Bool) {kinds : List TemplateKind} (p : Page)
    (hk : p.template ∈ kinds) :
    ∃ text, (builtinSet short kinds).render p.template (s.templateNames (some p)) = .ok text := by
  obtain ⟨text, rendered⟩ :=
    render_ok short (fits_templateNames s p) p.template.builtin (builtin_admitted p.template)
  have named : (builtinSet short kinds).renderNamed (p.template.fileName .markdown)
      (s.templateNames (some p)) = some text := by
    show ((kinds.map fun k => (k.fileName .markdown, k.builtin)).lookup
      (p.template.fileName .markdown)).bind _ = _
    rw [TemplateSet.lookup_builtin hk, Option.bind_some]
    exact TemplateSet.toOption_eq_some_iff.mpr rendered
  refine ⟨text, ?_⟩
  unfold TemplateSet.render
  rw [show (builtinSet short kinds).format = .markdown from rfl, named]

/-- **Every document of a site has a text**, whatever the files are when its turn comes. -/
theorem documentText_ok {s : Site} (hx : s.config.exampleDirectory = none) (short : Bool)
    {d : Document} (hd : d ∈ s.plan.documents) (fs : FileSystem) :
    ∃ text, s.documentText fs (builtinSet short s.plan.templateKinds) d = .ok text := by
  obtain ⟨p, built, made⟩ := exists_page fs hx hd
  obtain ⟨text, rendered⟩ := render_builtin s short p (made ▸ mem_templateKinds hd)
  unfold Site.documentText
  rw [built, ← made]
  exact ⟨text, rendered⟩

/-! ## 4. Runs -/

open OnDisk

namespace Site

/-- **What has nothing to do with pages**: no directory, a blank name for the index, or a disk that
    refuses the directory or, when some documents have been written, the folder or the file of the
    next one. -/
inductive OutputError (engine : TemplateEngine) (s : Site) (fs : FileSystem) : SiteError → Prop where
  | noDirectory (h : s.config.directory = none) : OutputError engine s fs .noDirectory
  | blankName (h : Schema.isBlankText s.config.indexName = true) :
      OutputError engine s fs (.option (.unknown "index name" s.config.indexName))
  | directory {directory : String} {cause : FileError} {after : FileSystem}
      (given : s.config.directory = some directory)
      (refused : perform (makeDirs directory) fs = (.error cause, after)) :
      OutputError engine s fs (.unwritable directory cause)
  | folder {directory parent : String} {t : TemplateSet} {written rest : List Document}
      {d : Document} {places : List Place} {now after : FileSystem} {cause : FileError}
      (checked : s.prepare engine fs = .ok (directory, t))
      (split : s.plan.documents = written ++ d :: rest)
      (progress : s.Progress directory t written places fs now)
      (lies : Path.parent? (Path.join directory d.path) = some parent)
      (refused : perform (makeDirs parent) now = (.error cause, after)) :
      OutputError engine s fs (.unwritable parent cause)
  | file {directory text : String} {t : TemplateSet} {written rest : List Document}
      {d : Document} {places : List Place} {now made : FileSystem} {cause : FileError}
      (checked : s.prepare engine fs = .ok (directory, t))
      (split : s.plan.documents = written ++ d :: rest)
      (progress : s.Progress directory t written places fs now)
      (rendered : s.documentText now t d = .ok text) (folders : now.AddsFolders made)
      (refused : made.writeText (Path.join directory d.path) text = .error cause) :
      OutputError engine s fs (.unwritable (Path.join directory d.path) cause)

variable {engine : TemplateEngine} {s : Site} {t : TemplateSet} {directory : String}
  {fs : FileSystem}

/-- A run fails of nothing but the disk after the check, if all documents have texts. -/
theorem outputError_of_outcome (checked : s.prepare engine fs = .ok (directory, t))
    (texts : ∀ d ∈ s.plan.documents, ∀ fs', ∃ text, s.documentText fs' t d = .ok text)
    {e : SiteError} {after : FileSystem} (h : s.Outcome t directory fs (.error e, after)) :
    s.OutputError engine fs e := by
  cases h with
  | refused refused => exact .directory (prepare_ok checked).1 refused
  | stopped start run =>
      cases run with
      | @stopped written rest d _ _ places _ split run failed =>
          have progress := progress_of_writes start run (FileSystem.addsFolders_refl _)
          cases failed with
          | noText failed =>
              have planned : d ∈ s.plan.documents := by simp [split]
              obtain ⟨text, rendered⟩ := texts d planned _
              cases failed.symm.trans rendered
          | noFolder lies refused => exact .folder checked split progress lies refused
          | noFile rendered folders refused =>
              exact .file checked split progress rendered folders refused

/-- Where no directories are asked for, only the configuration itself can be wrong. -/
theorem outputError_of_validate (ht : s.config.templateDirectory = none)
    (hx : s.config.exampleDirectory = none) {e : SiteError} (h : s.config.validate fs = .error e) :
    s.OutputError engine fs e := by
  unfold SiteConfig.validate at h
  cases hd : s.config.directory with
  | none => rw [hd] at h; cases h; exact .noDirectory hd
  | some directory =>
      cases hi : Schema.isBlankText s.config.indexName with
      | true => rw [hd, hi] at h; cases h; exact .blankName hi
      | false => rw [hd, hi, ht, hx] at h; cases h

section Builtin

variable (hf : s.config.format = .markdown) (ht : s.config.templateDirectory = none)
  (hx : s.config.exampleDirectory = none)
include hf ht hx

omit hx in
theorem load_plan (engine : TemplateEngine) (fs : FileSystem) :
    TemplateSet.load engine fs s.config.format s.config.templateDirectory s.plan.templateKinds
      s.config.shortDescriptions =
        .ok (builtinSet s.config.shortDescriptions s.plan.templateKinds) := by
  rw [hf, ht]
  exact TemplateSet.load_builtin engine fs _ _

/-- A check fails of the configuration alone, and a check that succeeds has the built-in templates. -/
theorem prepare_builtin (engine : TemplateEngine) (fs : FileSystem) :
    (∀ e, s.prepare engine fs = .error e → s.OutputError engine fs e) ∧
      ∀ directory t, s.prepare engine fs = .ok (directory, t) →
        ∀ d ∈ s.plan.documents, ∀ fs', ∃ text, s.documentText fs' t d = .ok text := by
  unfold prepare
  cases hv : s.config.validate fs with
  | error e =>
      refine ⟨fun e' h => ?_, fun directory t h => by cases h⟩
      cases h
      exact outputError_of_validate ht hx hv
  | ok u =>
      simp only [bind, Except.bind]
      cases hd : s.config.directory with
      | none =>
          refine ⟨fun e' h => ?_, fun directory t h => by cases h⟩
          cases h
          exact .noDirectory hd
      | some directory =>
          dsimp only
          rw [load_plan hf ht engine fs]
          refine ⟨fun e' h => (by cases h), fun directory' t h => ?_⟩
          cases h
          exact fun d planned fs' => documentText_ok hx _ planned fs'

/-- A run fails of nothing that has to do with pages. -/
theorem outputError_of_write {e : SiteError} (failed : (perform (s.write engine) fs).1 = .error e) :
    s.OutputError engine fs e := by
  obtain ⟨wrong, texts⟩ := prepare_builtin hf ht hx engine fs
  cases hp : s.prepare engine fs with
  | error e' =>
      rw [perform_write_of_error hp] at failed
      cases failed
      exact wrong e hp
  | ok found =>
      obtain ⟨directory, t⟩ := found
      have outcome := outcome_write hp
      rcases hw : perform (s.write engine) fs with ⟨r, after⟩
      rw [hw] at failed outcome
      cases failed
      exact outputError_of_outcome hp (texts directory t hp) outcome

/-- **The built-in templates never fail**, and no engine for other templates is asked. The templates
    that the plan needs can be loaded, and with them every document of the plan has its page and a
    text, whatever the files are. So a run can fail only of a missing directory, a blank name for the
    index, or the disk that it writes to, as it finds it. -/
theorem write_builtin (engine : TemplateEngine) :
    (∀ fs, ∃ t, TemplateSet.load engine fs s.config.format s.config.templateDirectory
        s.plan.templateKinds s.config.shortDescriptions = .ok t ∧
      ∀ d ∈ s.plan.documents, ∀ fs', ∃ p text, s.page? fs' d.subject = .ok (some p) ∧
        p.template = d.template ∧ s.documentText fs' t d = .ok text) ∧
    ∀ fs e, (perform (s.write engine) fs).1 = .error e → s.OutputError engine fs e := by
  refine ⟨fun fs => ⟨_, load_plan hf ht engine fs, fun d hd fs' => ?_⟩,
    fun fs e => outputError_of_write hf ht hx⟩
  obtain ⟨p, built, made⟩ := exists_page fs' hx hd
  obtain ⟨text, rendered⟩ := documentText_ok hx s.config.shortDescriptions hd fs'
  exact ⟨p, text, built, made, rendered⟩

end Builtin

/-- The site of slots and types with a directory to go to. -/
def yearsInOut : Site := { yearsSite with config := { yearsSite.config with directory := some "out" } }

/-- A disk with a file where the folder for schemas goes. -/
def blockedDisk : FileSystem where
  nodes := [(["out"], .dir), (["out", "schemas"], .file (.text ""))]

/-- The index is written, and then the disk refuses the folder of the next document. -/
theorem write_blocked (engine : TemplateEngine) :
    (perform (yearsInOut.write engine) blockedDisk).1 =
      .error (.unwritable "out/schemas" .exists) := by
  have checked : yearsInOut.prepare engine blockedDisk =
      .ok ("out", builtinSet true yearsInOut.plan.templateKinds) := rfl
  have index : yearsInOut.indexDocument ∈ yearsInOut.plan.documents := List.mem_cons_self
  have schema : yearsInOut.schemaDocument "p" ∈ yearsInOut.plan.documents := .tail _ (.head _)
  obtain ⟨text, first⟩ := documentText_ok rfl true index blockedDisk
  obtain ⟨_, second⟩ := documentText_ok rfl true schema
    (blockedDisk.put ["out", "index.md"] (.file (.text text)))
  have documents : yearsInOut.plan.documents = yearsInOut.indexDocument ::
    yearsInOut.schemaDocument "p" :: yearsInOut.plan.documents.drop 2 := rfl
  have made : perform (mapError (.unwritable "out") (makeDirs "out")) blockedDisk =
    ((.ok () : Except SiteError Unit), blockedDisk) := rfl
  have written : perform (yearsInOut.writeDocument (builtinSet true yearsInOut.plan.templateKinds)
      "out" yearsInOut.indexDocument) blockedDisk =
      (.ok "out/index.md", blockedDisk.put ["out", "index.md"] (.file (.text text))) := by
    rw [perform_writeDocument first]
    rfl
  have refused : perform (yearsInOut.writeDocument (builtinSet true yearsInOut.plan.templateKinds)
      "out" (yearsInOut.schemaDocument "p")) (blockedDisk.put ["out", "index.md"] (.file (.text text))) =
      (.error (.unwritable "out/schemas" .exists),
        blockedDisk.put ["out", "index.md"] (.file (.text text))) := by
    rw [perform_writeDocument second]
    rfl
  rw [perform_write_of_ok checked, perform_bind, made, documents]
  dsimp only
  rw [perform_bind, List.mapM_cons, perform_bind, written]
  dsimp only
  rw [perform_bind, List.mapM_cons, perform_bind, refused]

/-- A site with pages of slots and types: its documents have texts, and where the disk refuses a folder
    the run fails of that. -/
theorem write_builtin_years :
    yearsInOut.config.format = .markdown ∧ yearsInOut.config.templateDirectory = none ∧
      yearsInOut.config.exampleDirectory = none ∧
      (∃ t, TemplateSet.load .values blockedDisk .markdown none yearsInOut.plan.templateKinds true =
          .ok t ∧
        ∀ d ∈ yearsInOut.plan.documents, ∃ text, yearsInOut.documentText {} t d = .ok text) ∧
      (perform (yearsInOut.write .values) blockedDisk).1 =
        .error (.unwritable "out/schemas" .exists) ∧
      yearsInOut.OutputError .values blockedDisk (.unwritable "out/schemas" .exists) := by
  obtain ⟨texts, failures⟩ := write_builtin (s := yearsInOut) rfl rfl rfl .values
  obtain ⟨t, loaded, rendered⟩ := texts blockedDisk
  refine ⟨rfl, rfl, rfl, ⟨t, loaded, fun d hd => ?_⟩, write_blocked .values,
    failures blockedDisk _ (write_blocked .values)⟩
  obtain ⟨_, text, _, _, made⟩ := rendered d hd {}
  exact ⟨text, made⟩

end Site

end SchemaPages
