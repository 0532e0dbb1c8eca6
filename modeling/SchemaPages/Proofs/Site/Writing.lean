import SchemaPages.Proofs.Files.Actions
import SchemaPages.Proofs.Site.Subjects
import SchemaPages.Proofs.Template.Sets
/-!
# What a run writes

A run checks its configuration first, and fails with an error of the configuration only there. After
that it writes the documents of the plan one by one, in order, until one of them fails.

* `prepare_error`, `documentText_error`: errors before and after the check;
* `Site.RendersTo`: the text of a document, by its page and its template;
* `Site.Writes`: documents written one after the other, each with the folders that it needs;
* `DocumentOutcome`, `RunOutcome`, `Outcome`: what writing one document, all of them and a site
  comes to;
* `file_iff_of_writes`: no other file changes;
* `write_prefix`: what a run leaves behind, whatever it comes to.
-/

namespace SchemaPages

open FileSystem OnDisk

/-- An error of a list of actions is that of one of them. -/
theorem exists_of_mapM_error {ε α β : Type} {f : α → Except ε β} {l : List α} {e : ε}
    (h : l.mapM f = .error e) : ∃ a ∈ l, f a = .error e := by
  induction l with
  | nil => cases h
  | cons a rest ih =>
      rw [List.mapM_cons] at h
      cases ha : f a with
      | error e' =>
          rw [ha] at h
          cases h
          exact ⟨a, List.mem_cons_self, ha⟩
      | ok b =>
          rw [ha] at h
          cases hr : rest.mapM f with
          | error e' =>
              simp only [hr, bind, Except.bind] at h
              cases h
              obtain ⟨x, hx, hf⟩ := ih hr
              exact ⟨x, List.mem_cons_of_mem _ hx, hf⟩
          | ok bs =>
              simp only [hr, bind, Except.bind] at h
              cases h

/-! ## 1. Errors of the configuration -/

section Errors

variable {engine : TemplateEngine} {fs : FileSystem} {e : SiteError}

theorem validate_error {c : SiteConfig} (h : c.validate fs = .error e) : e.isConfigError = true := by
  unfold SiteConfig.validate at h
  cases hd : c.directory.isNone with
  | true => rw [hd] at h; cases h; rfl
  | false =>
      cases hi : Schema.isBlankText c.indexName with
      | true => rw [hd, hi] at h; cases h; rfl
      | false =>
          rw [hd, hi] at h
          cases ht : SiteConfig.lacks fs c.templateDirectory with
          | some dir => rw [ht] at h; cases h; rfl
          | none =>
              rw [ht] at h
              cases hx : SiteConfig.lacks fs c.exampleDirectory with
              | some dir => rw [hx] at h; cases h; rfl
              | none => rw [hx] at h; cases h

/-- **Whatever fails before anything is written is an error of the configuration.** -/
theorem prepare_error {s : Site} (h : s.prepare engine fs = .error e) :
    e.isConfigError = true := by
  unfold Site.prepare at h
  cases hv : s.config.validate fs with
  | error e' =>
      rw [hv] at h
      cases h
      exact validate_error hv
  | ok u =>
      rw [hv] at h
      simp only [bind, Except.bind] at h
      split at h
      · cases h; rfl
      · split at h
        · rename_i e' failed
          cases h
          exact TemplateSet.load_error failed
        · cases h

theorem examples_error {s : Site} {cls : String} (h : s.examples fs cls = .error e) :
    e.isConfigError = false := by
  unfold Site.examples at h
  split at h
  · cases h
  · rename_i directory _
    cases hx : Site.exampleFiles fs directory cls with
    | error e' =>
        rw [hx] at h
        cases h
        unfold Site.exampleFiles at hx
        cases hl : fs.list directory with
        | error cause => rw [hl] at hx; cases hx; rfl
        | ok names => rw [hl] at hx; cases hx
    | ok files =>
        rw [hx] at h
        obtain ⟨path, _, failed⟩ := exists_of_mapM_error h
        unfold Site.readExample at failed
        cases ht : fs.readText path with
        | error cause => rw [ht] at failed; cases failed; rfl
        | ok content => rw [ht] at failed; cases failed

theorem page_error {s : Site} {subject : Subject} (h : s.page? fs subject = .error e) :
    e.isConfigError = false := by
  cases subject with
  | index => cases h
  | schema name => cases h
  | element kind name =>
      unfold Site.page? at h
      dsimp only at h
      split at h
      · rename_i x _
        cases x with
        | cls c =>
            simp only [Site.elementPage] at h
            cases hx : s.examples fs c.name with
            | error e' => rw [hx] at h; cases h; exact examples_error hx
            | ok examples => rw [hx] at h; cases h
        | _ => cases h
      · cases h

/-- **No text fails for the configuration.** -/
theorem documentText_error {s : Site} {t : TemplateSet} {d : Document}
    (h : s.documentText fs t d = .error e) : e.isConfigError = false := by
  unfold Site.documentText at h
  cases hp : s.page? fs d.subject with
  | error e' =>
      rw [hp] at h
      cases h
      exact page_error hp
  | ok page =>
      rw [hp] at h
      exact TemplateSet.render_error h

end Errors

/-! ## 2. Documents -/

namespace Site

/-- **The text of a document**: what the template of its kind makes of the settings and of the page
    that is built for its subject. -/
def RendersTo (s : Site) (t : TemplateSet) (fs : FileSystem) (d : Document) (text : String) : Prop :=
  ∃ p, s.page? fs d.subject = .ok (some p) ∧ p.template = d.template ∧
    t.Makes (d.template.fileName t.format)
      [("settings", s.settings), ("page", p.toValue s.config.format)] text

theorem rendersTo_of_documentText {s : Site} {t : TemplateSet} {fs : FileSystem} {d : Document}
    {text : String} (hd : d ∈ s.plan.documents) (h : s.documentText fs t d = .ok text) :
    s.RendersTo t fs d text := by
  unfold documentText at h
  cases built : s.page? fs d.subject with
  | error e => rw [built] at h; cases h
  | ok page =>
      rw [built] at h
      obtain ⟨p, rfl, template⟩ := template_of_planned hd built
      exact ⟨p, built, template, TemplateSet.makes_of_render h⟩

/-- **Documents written one after the other**, with the places of their files. Each is rendered from
    the files as they are when its turn comes. -/
inductive Writes (s : Site) (t : TemplateSet) (directory : String) :
    List Document → FileSystem → FileSystem → List Place → Prop where
  | stop (fs : FileSystem) : Writes s t directory [] fs fs []
  | write {d : Document} {rest : List Document} {fs made done after : FileSystem} {text : String}
      {place : Place} {places : List Place}
      (rendered : s.RendersTo t fs d text)
      (folders : fs.AddsFolders made)
      (located : made.locate (Path.join directory d.path) = .ok place)
      (wrote : made.writeText (Path.join directory d.path) text = .ok done)
      (later : Writes s t directory rest done after places) :
      Writes s t directory (d :: rest) fs after (place :: places)

variable {s : Site} {t : TemplateSet} {directory : String} {fs after : FileSystem}

/-- Makes the folder of a file, if its path has one. -/
def makeFolder (path : String) : OnDisk SiteError Unit :=
  match Path.parent? path with
  | some parent => OnDisk.mapError (.unwritable parent) (OnDisk.makeDirs parent)
  | none => pure ()

/-- Writes a file. -/
def save (path text : String) : OnDisk SiteError Unit :=
  OnDisk.mapError (.unwritable path) (OnDisk.change fun fs => fs.writeText path text)

theorem writeDocument_eq (d : Document) : s.writeDocument t directory d =
    (OnDisk.look fun fs => s.documentText fs t d) >>= fun text =>
      makeFolder (Path.join directory d.path) >>= fun _ =>
        save (Path.join directory d.path) text >>= fun _ => pure (Path.join directory d.path) := by
  unfold writeDocument makeFolder save
  refine congrArg (OnDisk.look (fun fs => s.documentText fs t d) >>= ·) (funext fun text => ?_)
  dsimp only
  cases Path.parent? (Path.join directory d.path) with
  | none => rw [pure_bind]
  | some parent => rfl

/-- A document that has a text: its folder is made, then its file is saved. -/
theorem perform_writeDocument {d : Document} {text : String}
    (rendered : s.documentText fs t d = .ok text) :
    perform (s.writeDocument t directory d) fs =
      perform (makeFolder (Path.join directory d.path) >>= fun _ =>
        save (Path.join directory d.path) text >>= fun _ => pure (Path.join directory d.path)) fs := by
  rw [writeDocument_eq, perform_bind, perform_look, rendered]

/-- A file is written as a whole, or the write fails and changes nothing. -/
theorem perform_save (path text : String) : perform (save path text) fs =
    match fs.writeText path text with
    | .ok after => (.ok (), after)
    | .error cause => (.error (.unwritable path cause), fs) := by
  unfold save
  rw [perform_mapError, perform_change]
  cases fs.writeText path text <;> rfl

/-- **What writing a document comes to**: it has no text, a disk refuses its folder or its file, or it
    is written as a whole. -/
inductive DocumentOutcome (s : Site) (t : TemplateSet) (directory : String) (d : Document)
    (fs : FileSystem) : Except SiteError String × FileSystem → Prop
  | noText {e : SiteError} (failed : s.documentText fs t d = .error e) :
      DocumentOutcome s t directory d fs (.error e, fs)
  | noFolder {parent : String} {cause : FileError} {after : FileSystem}
      (lies : Path.parent? (Path.join directory d.path) = some parent)
      (refused : perform (makeDirs parent) fs = (.error cause, after)) :
      DocumentOutcome s t directory d fs (.error (.unwritable parent cause), after)
  | noFile {text : String} {cause : FileError} {made : FileSystem}
      (rendered : s.documentText fs t d = .ok text) (folders : fs.AddsFolders made)
      (refused : made.writeText (Path.join directory d.path) text = .error cause) :
      DocumentOutcome s t directory d fs
        (.error (.unwritable (Path.join directory d.path) cause), made)
  | written {text : String} {made after : FileSystem}
      (rendered : s.documentText fs t d = .ok text) (folders : fs.AddsFolders made)
      (wrote : made.writeText (Path.join directory d.path) text = .ok after) :
      DocumentOutcome s t directory d fs (.ok (Path.join directory d.path), after)

/-- The folder of a file is made, or the disk refuses it. -/
theorem makeFolder_outcome (path : String) (fs : FileSystem) :
    (∃ made, perform (makeFolder path) fs = (.ok (), made) ∧ fs.AddsFolders made) ∨
      ∃ parent cause after, Path.parent? path = some parent ∧
        perform (makeDirs parent) fs = (.error cause, after) ∧
        perform (makeFolder path) fs = (.error (.unwritable parent cause), after) := by
  unfold makeFolder
  split
  · rename_i parent lies
    rw [perform_mapError]
    have folders := addsFolders_makeDirs parent fs
    rcases hr : perform (makeDirs parent) fs with ⟨r, after⟩
    rw [hr] at folders
    cases r with
    | ok u => exact Or.inl ⟨after, rfl, folders⟩
    | error cause => exact Or.inr ⟨parent, cause, after, lies, hr, rfl⟩
  · exact Or.inl ⟨fs, rfl, addsFolders_refl fs⟩

theorem outcome_writeDocument (s : Site) (t : TemplateSet) (directory : String) (d : Document)
    (fs : FileSystem) :
    s.DocumentOutcome t directory d fs (perform (s.writeDocument t directory d) fs) := by
  rw [writeDocument_eq, perform_bind, perform_look]
  cases ht : s.documentText fs t d with
  | error e => exact .noText ht
  | ok text =>
      dsimp only
      rw [perform_bind]
      rcases makeFolder_outcome (Path.join directory d.path) fs with
        ⟨made, folder, folders⟩ | ⟨parent, cause, after, lies, refused, failed⟩
      · rw [folder]
        dsimp only
        rw [perform_bind, perform_save]
        cases hw : made.writeText (Path.join directory d.path) text with
        | error cause => exact .noFile ht folders hw
        | ok after => exact .written ht folders hw
      · rw [failed]
        exact .noFolder lies refused

/-- **A document that is not written** fails for no reason of the configuration, with nothing but new
    folders left behind. -/
theorem harmless_of_outcome {d : Document} {e : SiteError}
    (h : s.DocumentOutcome t directory d fs (.error e, after)) :
    e.isConfigError = false ∧ fs.AddsFolders after := by
  cases h with
  | noText failed => exact ⟨documentText_error failed, addsFolders_refl fs⟩
  | @noFolder parent _ _ _ refused =>
      have folders := addsFolders_makeDirs parent fs
      rw [refused] at folders
      exact ⟨rfl, folders⟩
  | noFile _ folders _ => exact ⟨rfl, folders⟩

/-! ## 3. All documents -/

/-- **What writing documents comes to**: one of them is not written, after all those before it, or all
    are. -/
inductive RunOutcome (s : Site) (t : TemplateSet) (directory : String) (documents : List Document)
    (fs : FileSystem) : Except SiteError (List String) × FileSystem → Prop
  | stopped {written rest : List Document} {d : Document} {stop after : FileSystem}
      {places : List Place} {e : SiteError} (split : documents = written ++ d :: rest)
      (run : s.Writes t directory written fs stop places)
      (failed : s.DocumentOutcome t directory d stop (.error e, after)) :
      RunOutcome s t directory documents fs (.error e, after)
  | finished {after : FileSystem} {places : List Place}
      (run : s.Writes t directory documents fs after places) :
      RunOutcome s t directory documents fs
        (.ok (documents.map fun d => Path.join directory d.path), after)

/-- **Writing documents goes on until one fails**: by induction on the documents. -/
theorem outcome_mapM (s : Site) (t : TemplateSet) (directory : String) {documents : List Document}
    (planned : ∀ d ∈ documents, d ∈ s.plan.documents) (fs : FileSystem) :
    s.RunOutcome t directory documents fs
      (perform (documents.mapM (s.writeDocument t directory)) fs) := by
  induction documents generalizing fs with
  | nil => exact .finished (.stop fs)
  | cons d documents ih =>
      rw [List.mapM_cons, perform_bind]
      have first := outcome_writeDocument s t directory d fs
      rcases hp : perform (s.writeDocument t directory d) fs with ⟨r, next⟩
      rw [hp] at first
      cases first with
      | written rendered folders wrote =>
          obtain ⟨place, located, _⟩ := writeText_ok wrote
          have text := rendersTo_of_documentText (planned d List.mem_cons_self) rendered
          dsimp only
          rw [perform_bind]
          have later := ih (fun d hd => planned d (List.mem_cons_of_mem _ hd)) next
          rcases hr : perform (documents.mapM (s.writeDocument t directory)) next with ⟨r, after⟩
          rw [hr] at later
          cases later with
          | stopped split run failed =>
              exact .stopped (congrArg (d :: ·) split) (.write text folders located wrote run) failed
          | finished run => exact .finished (.write text folders located wrote run)
      | noText failed => exact .stopped rfl (.stop fs) (.noText failed)
      | noFolder lies refused => exact .stopped rfl (.stop fs) (.noFolder lies refused)
      | noFile rendered folders refused =>
          exact .stopped rfl (.stop fs) (.noFile rendered folders refused)

/-- **No other file changes**: by induction on the documents written. -/
theorem file_iff_of_writes {documents : List Document} {places : List Place}
    (h : Writes s t directory documents fs after places) {p : Place} (hp : p ∉ places) (c : Content) :
    after.node? p = some (.file c) ↔ fs.node? p = some (.file c) := by
  induction h with
  | stop => exact Iff.rfl
  | write _ folders located wrote _ ih =>
      obtain ⟨place, found, _, _, rfl⟩ := writeText_ok wrote
      rw [located] at found
      cases found
      have other := List.ne_of_not_mem_cons hp
      rw [ih (List.not_mem_of_not_mem_cons hp), node?_put_of_ne _ _ other]
      exact file_iff_of_addsFolders folders p c

/-! ## 4. Whole runs -/

/-- **What a run leaves behind** that has written some documents: their files at some places, folders,
    and all other files as they were. -/
structure Progress (s : Site) (directory : String) (t : TemplateSet) (written : List Document)
    (places : List Place) (before after : FileSystem) : Prop where
  run : ∃ start stop, before.AddsFolders start ∧ s.Writes t directory written start stop places ∧
    stop.AddsFolders after
  others : ∀ p c, p ∉ places →
    (after.node? p = some (.file c) ↔ before.node? p = some (.file c))

theorem documents_ne_nil (s : Site) : s.plan.documents ≠ [] := by
  unfold plan
  split
  · exact List.cons_ne_nil _ _
  · simp

theorem progress_of_writes {start stop : FileSystem} {written : List Document} {places : List Place}
    (h : fs.AddsFolders start) (run : s.Writes t directory written start stop places)
    (h' : stop.AddsFolders after) : s.Progress directory t written places fs after where
  run := ⟨start, stop, h, run, h'⟩
  others p c hp := by
    rw [file_iff_of_addsFolders h' p c, file_iff_of_writes run hp c]
    exact file_iff_of_addsFolders h p c

variable {engine : TemplateEngine}

/-- A check that succeeds gives the directory of the configuration, and the templates that there are. -/
theorem prepare_ok (h : s.prepare engine fs = .ok (directory, t)) :
    s.config.directory = some directory ∧
      t.Loaded engine fs s.config.format s.config.templateDirectory s.config.shortDescriptions := by
  unfold prepare at h
  cases hv : s.config.validate fs with
  | error e => rw [hv] at h; cases h
  | ok u =>
      rw [hv] at h
      simp only [bind, Except.bind] at h
      split at h
      · cases h
      · rename_i found
        split at h
        · cases h
        · rename_i loaded
          cases h
          exact ⟨found, TemplateSet.loaded_of_load loaded⟩

theorem perform_write_of_error {e : SiteError} (h : s.prepare engine fs = .error e) :
    perform (s.write engine) fs = (.error e, fs) := by
  unfold write
  rw [perform_bind, perform_look, h]

/-- After the check, a run makes the directory and writes the documents. -/
theorem perform_write_of_ok (h : s.prepare engine fs = .ok (directory, t)) :
    perform (s.write engine) fs =
      perform (OnDisk.mapError (.unwritable directory) (OnDisk.makeDirs directory) >>= fun _ =>
        s.plan.documents.mapM (s.writeDocument t directory) >>= fun written =>
          pure ⟨written, s.plan.skipped⟩) fs := by
  unfold write
  rw [perform_bind, perform_look, h]

/-- **What a run comes to after the check**: the disk refuses the directory, or the directory is made
    and the documents are written as far as that goes. -/
inductive Outcome (s : Site) (t : TemplateSet) (directory : String) (fs : FileSystem) :
    Except SiteError Report × FileSystem → Prop
  | refused {cause : FileError} {after : FileSystem}
      (refused : perform (makeDirs directory) fs = (.error cause, after)) :
      Outcome s t directory fs (.error (.unwritable directory cause), after)
  | stopped {start after : FileSystem} {e : SiteError} (folders : fs.AddsFolders start)
      (run : s.RunOutcome t directory s.plan.documents start (.error e, after)) :
      Outcome s t directory fs (.error e, after)
  | finished {start after : FileSystem} {written : List String} (folders : fs.AddsFolders start)
      (run : s.RunOutcome t directory s.plan.documents start (.ok written, after)) :
      Outcome s t directory fs (.ok ⟨written, s.plan.skipped⟩, after)

theorem outcome_write (h : s.prepare engine fs = .ok (directory, t)) :
    s.Outcome t directory fs (perform (s.write engine) fs) := by
  rw [perform_write_of_ok h, perform_bind, perform_mapError]
  have folders := addsFolders_makeDirs directory fs
  rcases hm : perform (makeDirs directory) fs with ⟨r, start⟩
  rw [hm] at folders
  cases r with
  | error cause => exact .refused hm
  | ok u =>
      dsimp only [Except.mapError]
      rw [perform_bind]
      have run := outcome_mapM s t directory (fun _ hd => hd) start
      rcases hr : perform (s.plan.documents.mapM (s.writeDocument t directory)) start with ⟨r, after⟩
      rw [hr] at run
      cases r with
      | error e => exact .stopped folders run
      | ok written => exact .finished folders run

/-- **A run after the check** has written some documents, from the first one on; all of them just if it
    succeeds. -/
theorem progress_of_outcome {r : Except SiteError Report × FileSystem}
    (h : s.Outcome t directory fs r) :
    ∃ written rest places, s.plan.documents = written ++ rest ∧
      s.Progress directory t written places fs r.2 ∧
      (∀ report, r.1 = .ok report → rest = [] ∧
        report.written = written.map (fun d => Path.join directory d.path) ∧
        report.skipped = s.plan.skipped) ∧
      ∀ e, r.1 = .error e → rest ≠ [] ∧ e.isConfigError = false := by
  cases h with
  | refused refused =>
      have folders := addsFolders_makeDirs directory fs
      rw [refused] at folders
      refine ⟨[], s.plan.documents, [], rfl,
        progress_of_writes (addsFolders_refl fs) (.stop fs) folders, nofun, fun e he => ?_⟩
      cases he
      exact ⟨documents_ne_nil s, rfl⟩
  | stopped folders run =>
      cases run with
      | @stopped written rest d _ _ places _ split run failed =>
          obtain ⟨harmless, more⟩ := harmless_of_outcome failed
          refine ⟨written, d :: rest, places, split, progress_of_writes folders run more, nofun,
            fun e he => ?_⟩
          cases he
          exact ⟨List.cons_ne_nil _ _, harmless⟩
  | finished folders run =>
      cases run with
      | @finished _ places run =>
          refine ⟨s.plan.documents, [], places, (List.append_nil _).symm,
            progress_of_writes folders run (addsFolders_refl _), fun report hr => ?_, nofun⟩
          cases hr
          exact ⟨rfl, rfl, rfl⟩

/-- **A run writes the plan from its beginning**, with whatever engine for templates. If it fails for
    the configuration nothing has changed. Otherwise it has written some of the documents, from the
    first one on and in order, each below the directory and with what its template makes of the page
    of its subject, and has changed no other file; not all of them just if it fails. A run that
    succeeds reports the paths of all documents, in order, and what the plan skips. -/
theorem write_prefix (engine : TemplateEngine) (s : Site) (fs : FileSystem) :
    (∀ e, (perform (s.write engine) fs).1 = .error e → e.isConfigError = true →
      (perform (s.write engine) fs).2 = fs) ∧
    ((∀ e, (perform (s.write engine) fs).1 = .error e → e.isConfigError = false) →
      ∃ directory t written rest places, s.config.directory = some directory ∧
        t.Loaded engine fs s.config.format s.config.templateDirectory s.config.shortDescriptions ∧
        s.plan.documents = written ++ rest ∧
        s.Progress directory t written places fs (perform (s.write engine) fs).2 ∧
        (∀ e, (perform (s.write engine) fs).1 = .error e → rest ≠ []) ∧
        ∀ report, (perform (s.write engine) fs).1 = .ok report → rest = [] ∧
          report.written = s.plan.documents.map (fun d => Path.join directory d.path) ∧
          report.skipped = s.plan.skipped) := by
  cases hp : s.prepare engine fs with
  | error e =>
      rw [perform_write_of_error hp]
      refine ⟨fun _ _ _ => rfl, fun h => ?_⟩
      have config := prepare_error hp
      rw [h e rfl] at config
      cases config
  | ok found =>
      obtain ⟨directory, t⟩ := found
      obtain ⟨written, rest, places, split, progress, success, failure⟩ :=
        progress_of_outcome (outcome_write hp)
      obtain ⟨given, loaded⟩ := prepare_ok hp
      refine ⟨fun e he config => ?_, fun _ => ?_⟩
      · rw [(failure e he).2] at config
        cases config
      · refine ⟨directory, t, written, rest, places, given, loaded, split, progress,
          fun e he => (failure e he).1, fun report hr => ?_⟩
        obtain ⟨none_left, same, skipped⟩ := success report hr
        have whole : s.plan.documents = written := by rw [split, none_left, List.append_nil]
        exact ⟨none_left, whole ▸ same, skipped⟩

/-- An engine that finds templates for all kinds, each of one text. -/
def oneTextEngine (text : String) : TemplateEngine where
  load _ _ := some (TemplateKind.all.map fun k => (k.fileName .markdown, fun _ _ _ => some text))

/-- A site with templates of its own. -/
def ownTemplates : Site where
  view := View.ofSchemas { id := "p", name := "p", classes := [{ name := "A" }] } []
  config :=
    { foldersByKind := true, directory := some "out", templateDirectory := some "templates" }

/-- A disk with templates, and with a file where the folder for schemas goes. -/
def templatesDisk : FileSystem where
  nodes := [(["templates"], .dir), (["out"], .dir), (["out", "schemas"], .file (.text ""))]

/-- The index is written, and then the disk refuses the folder of the next document. -/
theorem perform_write_ownTemplates : perform (ownTemplates.write (oneTextEngine "page")) templatesDisk =
    (.error (.unwritable "out/schemas" .exists),
      templatesDisk.put ["out", "index.md"] (.file (.text "page"))) := by
  let t : TemplateSet := ⟨.markdown, true,
    TemplateKind.all.map fun k => (k.fileName .markdown, fun _ _ _ => some "page"), []⟩
  have checked : ownTemplates.prepare (oneTextEngine "page") templatesDisk = .ok ("out", t) := rfl
  have documents : ownTemplates.plan.documents = ownTemplates.indexDocument ::
    ownTemplates.schemaDocument "p" :: ownTemplates.plan.documents.drop 2 := rfl
  have made : perform (mapError (.unwritable "out") (makeDirs "out")) templatesDisk =
    ((.ok () : Except SiteError Unit), templatesDisk) := rfl
  have index (fs : FileSystem) :
      ownTemplates.documentText fs t ownTemplates.indexDocument = .ok "page" := rfl
  have schema (fs : FileSystem) :
      ownTemplates.documentText fs t (ownTemplates.schemaDocument "p") = .ok "page" := rfl
  have written : perform (ownTemplates.writeDocument t "out" ownTemplates.indexDocument)
      templatesDisk = (.ok "out/index.md",
        templatesDisk.put ["out", "index.md"] (.file (.text "page"))) := by
    rw [perform_writeDocument (index _)]
    rfl
  have refused : perform (ownTemplates.writeDocument t "out" (ownTemplates.schemaDocument "p"))
      (templatesDisk.put ["out", "index.md"] (.file (.text "page"))) =
      (.error (.unwritable "out/schemas" .exists),
        templatesDisk.put ["out", "index.md"] (.file (.text "page"))) := by
    rw [perform_writeDocument (schema _)]
    rfl
  rw [perform_write_of_ok checked, perform_bind, made, documents]
  dsimp only
  rw [perform_bind, List.mapM_cons, perform_bind, written]
  dsimp only
  rw [perform_bind, List.mapM_cons, perform_bind, refused]

theorem write_prefix_ownTemplates :
    (perform (ownTemplates.write (oneTextEngine "page")) {}).1 =
        .error (.noTemplateDirectory "templates") ∧
      (perform (ownTemplates.write (oneTextEngine "page")) {}).2 = {} ∧
      (perform (ownTemplates.write (oneTextEngine "page")) templatesDisk).1 =
        .error (.unwritable "out/schemas" .exists) ∧
      ∃ t written rest places, ownTemplates.plan.documents = written ++ rest ∧ rest ≠ [] ∧
        ownTemplates.Progress "out" t written places templatesDisk
          (templatesDisk.put ["out", "index.md"] (.file (.text "page"))) ∧
        ["out", "index.md"] ∈ places := by
  have lacking : (perform (ownTemplates.write (oneTextEngine "page")) {}).1 =
      .error (.noTemplateDirectory "templates") := by
    have checked : ownTemplates.prepare (oneTextEngine "page") {} =
      .error (.noTemplateDirectory "templates") := rfl
    rw [perform_write_of_error checked]
  obtain ⟨same, _⟩ := write_prefix (oneTextEngine "page") ownTemplates {}
  obtain ⟨_, prefixed⟩ := write_prefix (oneTextEngine "page") ownTemplates templatesDisk
  rw [perform_write_ownTemplates] at prefixed ⊢
  obtain ⟨directory, t, written, rest, places, given, _, split, progress, left, _⟩ :=
    prefixed fun e he => by cases he; rfl
  cases given
  refine ⟨lacking, same _ lacking rfl, rfl, t, written, rest, places, split, left _ rfl, progress, ?_⟩
  by_contra out
  have old := (progress.others ["out", "index.md"] (.text "page") out).mp
    (FileSystem.node?_put _ _ (by decide))
  exact absurd old (by decide)

end Site

end SchemaPages
