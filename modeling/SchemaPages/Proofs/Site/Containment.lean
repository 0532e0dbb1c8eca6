import SchemaPages.Proofs.Files.Components
import SchemaPages.Proofs.Site.Dangling
import SchemaPages.Proofs.Site.Writing
import SchemaPages.Proofs.View.Minting
import SchemaPages.Template.Reader
/-!
# Documents in the directory of the site

Documents are meant to stand in the directory of the site, below it in the folder of their kind if
pages have folders. Canonical names keep to that. Names of schemas and URIs make paths as they are, and
may have slashes: then a document stands elsewhere, even outside of the directory.

* `Site.Contained`: every document stands where it should;
* `Site.FitStem`, `sits_iff_fitStem`: the stems of files that do;
* `Site.ChangesBelow`, `changesBelow_of_contained`: what a run can change then;
* `contained_of_plainNames`, `contained_iff`: when documents are contained.
-/

namespace SchemaPages

open FileSystem OnDisk

namespace Site

variable {s : Site} {fs after : FileSystem} {t : TemplateSet} {directory : String}

/-- **Every document stands where it should**: the index at the top, all others in their folders, if
    pages have folders. -/
def Contained (s : Site) : Prop := ∀ d ∈ s.plan.documents, Path.Sits (s.homeOf d.subject) d.path

/-- **The stem of a file that stays in its folder**: it is relative, and has no step but its last one.
    Below a folder, steps that lead nowhere do no harm. -/
def FitStem (s : Site) (stem : String) : Prop :=
  Path.isAbsolute stem = false ∧
    ∀ step ∈ (Text.pieces '/' stem).dropLast,
      s.config.foldersByKind = true ∧ (step = "" ∨ step = ".")

instance (s : Site) (stem : String) : Decidable (s.FitStem stem) :=
  inferInstanceAs (Decidable (_ ∧ _))

/-- Files change only in the directory of the site: in it, or in the folder of a document. -/
def ChangesBelow (s : Site) (directory : String) (fs after : FileSystem) : Prop :=
  ∀ p c, ¬ (after.node? p = some (.file c) ↔ fs.node? p = some (.file c)) →
    ∃ top file, after.follow (after.root directory) (Path.steps directory) = .ok top ∧
      ∃ d ∈ s.plan.documents, p = top ++ s.homeOf d.subject ++ [file]

/-! ## 1. Stems -/

/-- A stem without a slash fits. -/
theorem fitStem_of_plain {stem : String} (h : '/' ∉ stem.toList) : s.FitStem stem := by
  refine ⟨Path.isAbsolute_of_plain h, ?_⟩
  rw [Path.pieces_of_plain h]
  exact fun step none => absurd none List.not_mem_nil

theorem fitStem_canonicalName (e : Element) : s.FitStem (View.canonicalName e) :=
  fitStem_of_plain (View.slash_not_mem_canonicalName e)

/-- **A canonical name fits**, so an element's name fits when that from its URI does. -/
theorem fitStem_name_iff (e : Element) :
    s.FitStem (s.name e) ↔ ∀ n, s.uriName? e = some n → s.FitStem n := by
  unfold name
  cases s.uriName? e with
  | none => simp [fitStem_canonicalName]
  | some n => simp

/-- The suffix goes to the last piece of a stem. -/
theorem pieces_fileName (stem : String) : ∃ front last, Text.pieces '/' stem = front ++ [last] ∧
    Path.IsName (s.fileName last) ∧
    Text.pieces '/' (s.fileName stem) = front ++ [s.fileName last] := by
  have plain : '/' ∉ ("." ++ s.config.format.suffix).toList := by
    rw [String.toList_append, List.mem_append]
    exact not_or.mpr ⟨by decide, suffix_plain _⟩
  obtain ⟨front, last, split, single, longer⟩ := Text.pieces_append_plain plain stem
  refine ⟨front, last, split, isName_fileName single, ?_⟩
  unfold fileName
  rw [String.append_assoc, String.append_assoc, longer]

/-- An absolute stem makes an absolute path, whatever folder it should stand in. -/
theorem below_absolute {stem : String} (h : Path.isAbsolute stem = true) (folder : String) :
    Path.isAbsolute (s.below folder (s.fileName stem)) = true := by
  have filled : stem ≠ "" := fun e => by
    rw [e] at h
    cases h
  have absolute : Path.isAbsolute (s.fileName stem) = true := by
    unfold fileName
    rw [String.append_assoc, Path.isAbsolute_append filled, h]
  unfold below Path.join
  rw [if_pos (Or.inl absolute), absolute]

/-- **A file stands in its folder exactly when its stem fits.** -/
theorem sits_iff_fitStem {folder : String} (hf : Path.IsName folder) (stem : String) :
    Path.Sits (s.home folder) (s.below folder (s.fileName stem)) ↔ s.FitStem stem := by
  unfold FitStem
  cases relative : Path.isAbsolute stem with
  | true =>
      constructor
      · intro sits
        cases (below_absolute (s := s) relative folder).symm.trans sits.relative
      · rintro ⟨never, _⟩
        cases never
  | false =>
      obtain ⟨front, last, split, file, longer⟩ := pieces_fileName (s := s) stem
      rw [below_folder hf relative, split, List.dropLast_concat]
      unfold home
      cases s.config.foldersByKind with
      | false =>
          rw [if_neg Bool.false_ne_true, if_neg Bool.false_ne_true, String.empty_append,
            Path.sits_plain_iff file longer]
          simp [List.eq_nil_iff_forall_not_mem]
      | true =>
          rw [if_pos rfl, if_pos rfl, Path.sits_below_iff hf file longer]
          simp

/-! ## 2. When documents are contained -/

theorem sits_index (h : '/' ∉ s.config.indexName.toList) :
    Path.Sits (s.homeOf s.indexDocument.subject) s.indexDocument.path :=
  Path.sits_of_name (isName_fileName h)

/-- **Documents are contained exactly when the names of schemas and URIs fit.** -/
theorem contained_iff_fitStem (h : '/' ∉ s.config.indexName.toList)
    (hf : s.config.format.isSingleFile = false) :
    s.Contained ↔ (∀ n ∈ s.view.importsClosure, s.FitStem n) ∧
      ∀ e ∈ s.allElements, s.hasPage e = true → ∀ n, s.uriName? e = some n → s.FitStem n := by
  constructor
  · intro contained
    refine ⟨fun n hn => ?_, fun e he hp => ?_⟩
    · have doc := (mem_documents hf).mpr (Or.inr (Or.inl ⟨n, hn, rfl⟩))
      exact (sits_iff_fitStem isName_schemaFolder n).mp (contained _ doc)
    · have doc := (mem_documents hf).mpr (Or.inr (Or.inr ⟨e, he, hp, rfl⟩))
      rw [← fitStem_name_iff]
      exact (sits_iff_fitStem (isName_kindFolder e.kind) (s.name e)).mp (contained _ doc)
  · rintro ⟨schemas, elements⟩ d hd
    rcases (mem_documents hf).mp hd with rfl | ⟨n, hn, rfl⟩ | ⟨e, he, hp, rfl⟩
    · exact sits_index h
    · exact (sits_iff_fitStem isName_schemaFolder n).mpr (schemas n hn)
    · exact (sits_iff_fitStem (isName_kindFolder e.kind) (s.name e)).mpr
        ((fitStem_name_iff e).mpr (elements e he hp))

/-- The index of a format with a single file is the only document. -/
theorem contained_of_singleFile (h : '/' ∉ s.config.indexName.toList)
    (hf : s.config.format.isSingleFile = true) : s.Contained := by
  intro d hd
  unfold plan at hd
  rw [if_pos hf, List.mem_singleton] at hd
  subst hd
  exact sits_index h

/-- **Plain names keep documents in their folders.** -/
theorem contained_of_plainNames (plain : s.PlainNames) : s.Contained := by
  cases hf : s.config.format.isSingleFile with
  | true => exact contained_of_singleFile plain.index hf
  | false =>
      refine (contained_iff_fitStem plain.index hf).mpr ⟨fun n hn => ?_, fun e he hp => ?_⟩
      · exact fitStem_of_plain (plain.schemas n hn)
      · exact (fitStem_name_iff e).mp (fitStem_of_plain (plain.elements e he hp))

/-! ## 3. What a run can change -/

theorem keepsFolders_of_writes {documents : List Document} {places : List Place}
    (h : Writes s t directory documents fs after places) : fs.KeepsFolders after := by
  induction h with
  | stop => exact keepsFolders_refl _
  | write _ folders _ wrote _ ih =>
      have made := keepsFolders_of_addsFolders folders
      exact keepsFolders_trans made (keepsFolders_trans (keepsFolders_of_writeText wrote) ih)

/-- **A file is written where the path of a document leads to**: by induction on the documents
    written. The directories on the way are there to the end. -/
theorem located_of_writes {documents : List Document} {places : List Place}
    (h : Writes s t directory documents fs after places) {p : Place} (hp : p ∈ places) :
    ∃ d ∈ documents, ∃ made : FileSystem, made.locate (Path.join directory d.path) = .ok p ∧
      made.KeepsFolders after := by
  induction h with
  | stop => cases hp
  | write _ _ located wrote later ih =>
      rcases List.mem_cons.mp hp with rfl | there
      · exact ⟨_, List.mem_cons_self, _, located,
          keepsFolders_trans (keepsFolders_of_writeText wrote) (keepsFolders_of_writes later)⟩
      · obtain ⟨d, hd, made, found, keeps⟩ := ih there
        exact ⟨d, List.mem_cons_of_mem _ hd, made, found, keeps⟩

theorem dot_not_mem_homeOf (subject : Subject) : "." ∉ s.homeOf subject := by
  by_cases index : subject = .index
  · rw [index]
    exact List.not_mem_nil
  · obtain ⟨folder, name, stands⟩ := homeOf_eq (s := s) index
    rw [stands]
    unfold home
    split
    · rw [List.mem_singleton]
      exact name.notHere.symm
    · exact List.not_mem_nil

/-- **A run changes files below its directory only**, where documents are contained. -/
theorem changesBelow_of_contained (engine : TemplateEngine) (contained : s.Contained)
    (dir : s.config.directory = some directory) (fs : FileSystem) :
    s.ChangesBelow directory fs (perform (s.write engine) fs).2 := by
  intro p c changed
  cases hp : s.prepare engine fs with
  | error e =>
      rw [perform_write_of_error hp] at changed
      exact absurd Iff.rfl changed
  | ok found =>
      obtain ⟨directory', t⟩ := found
      have same := (prepare_ok hp).1.symm.trans dir
      cases same
      obtain ⟨written, rest, places, split, progress, _, _⟩ :=
        progress_of_outcome (outcome_write hp)
      have mem : p ∈ places := Decidable.byContradiction fun other =>
        changed (progress.others p c other)
      obtain ⟨start, stop, _, run, left⟩ := progress.run
      obtain ⟨d, hd, made, located, keeps⟩ := located_of_writes run mem
      have doc : d ∈ s.plan.documents := split ▸ List.mem_append_left rest hd
      obtain ⟨top, file, led, place⟩ :=
        locate_join (contained d doc) (dot_not_mem_homeOf d.subject) located
      have still := keepsFolders_trans keeps (keepsFolders_of_addsFolders left)
      refine ⟨top, file, ?_, d, doc, place⟩
      have root : (perform (s.write engine) fs).2.root directory = made.root directory := by
        unfold root
        rw [still.here]
      rw [root]
      exact follow_kept still led

/-- **When documents stay in the directory of the site.** A format with a single file keeps to it.
    In any other, documents stand where they should exactly when the names of schemas, and those that
    elements have by their URIs, fit; then a run changes no file out of the directory, whatever engine
    reads its templates. -/
theorem contained_iff (s : Site) (h : '/' ∉ s.config.indexName.toList) :
    (s.Contained ↔ s.config.format.isSingleFile = true ∨
      (∀ n ∈ s.view.importsClosure, s.FitStem n) ∧
        ∀ e ∈ s.allElements, s.hasPage e = true → ∀ n, s.uriName? e = some n → s.FitStem n) ∧
    (s.Contained → ∀ directory, s.config.directory = some directory →
      ∀ engine fs, s.ChangesBelow directory fs (perform (s.write engine) fs).2) := by
  refine ⟨?_, fun contained _ dir engine fs => changesBelow_of_contained engine contained dir fs⟩
  cases hf : s.config.format.isSingleFile with
  | true => simp [contained_of_singleFile h hf]
  | false =>
      rw [contained_iff_fitStem h hf]
      simp

/-- A site in folders of a class that is named by its URI. -/
def namedByUri (uri : String) : Site where
  view := View.ofSchemas { id := "p", name := "p", classes := [{ name := "C", uri := some uri }] } []
  config := { classUris := true, foldersByKind := true, directory := some "out" }

theorem contained_iff_person :
    '/' ∉ (namedByUri "p:Person").config.indexName.toList ∧ (namedByUri "p:Person").Contained ∧
      (namedByUri "p:Person").config.directory = some "out" ∧
      (namedByUri "p:Person").ChangesBelow "out" {}
        (perform ((namedByUri "p:Person").write .values) {}).2 := by
  have plain : '/' ∉ (namedByUri "p:Person").config.indexName.toList := by decide
  have contained : (namedByUri "p:Person").Contained :=
    (contained_iff (namedByUri "p:Person") plain).1.mpr
      (Or.inr ⟨by decide +kernel, by decide +kernel⟩)
  exact ⟨plain, contained, rfl,
    (contained_iff (namedByUri "p:Person") plain).2 contained "out" rfl .values {}⟩

/-- A name from a URI makes a path as it is, also when it leads up. -/
theorem not_contained_up :
    '/' ∉ (namedByUri "p:../../C").config.indexName.toList ∧
      ¬ (namedByUri "p:../../C").Contained := by
  refine ⟨by decide, fun contained => ?_⟩
  have doc : (⟨.cls, .element .cls "C", "classes/../../C.md"⟩ : Document) ∈
      (namedByUri "p:../../C").plan.documents := by
    decide +kernel
  exact absurd (contained _ doc).down (by decide +kernel)

end Site

end SchemaPages
