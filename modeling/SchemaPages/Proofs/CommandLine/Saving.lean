import SchemaPages.CommandLine.Settings
import SchemaPages.Proofs.Data.Json
import SchemaPages.Proofs.Data.Records
import SchemaPages.Proofs.Data.Toml.Documents
import SchemaPages.Proofs.Data.Yaml.Documents
import SchemaPages.Proofs.Files.Components
/-!
# Settings that are saved

Settings are saved in the format that the extension of their file names, and read in the same. A format
without a word for what is not set leaves it out; so it is read back only because nothing else than
being unset is the default of an option.

* `SettingsFormat.kept`, `SettingsFormat.Faithful`: what a format keeps of a value, and values that it
  gives back;
* `read_kept`: settings are read from what a format keeps of them;
* `faithful_json`, `faithful_toml`, `faithful_yaml`: every format gives all settings back;
* `FileSystem.Writable`, `perform_save`: paths that can be written, and what saving comes to;
* `ofFile_save`: saved settings are read back.
-/

namespace SchemaPages.CommandLine

open OnDisk

/-! ## 1. What formats keep -/

namespace SettingsFormat

/-- Whether a format has a word for what is not set. -/
def writesNull : SettingsFormat → Bool
  | .toml => false
  | _ => true

mutual

/-- **What a format keeps of a value**: everything, but for the entries that are not set where it has no
    word for them. -/
def kept (f : SettingsFormat) : Value → Value
  | .obj entries => .obj (keptEntries f entries)
  | v => v

/-- What a format keeps of the entries of a mapping. -/
def keptEntries (f : SettingsFormat) : List (String × Value) → List (String × Value)
  | [] => []
  | (key, .null) :: rest => if f.writesNull then (key, .null) :: keptEntries f rest else keptEntries f rest
  | (key, v) :: rest => (key, kept f v) :: keptEntries f rest

end

/-- **A format gives a value back**: its text is read as what the format keeps of it. -/
def Faithful (f : SettingsFormat) (v : Value) : Prop := f.parse? (f.write v) = some (f.kept v)

mutual

/-- Where there is a word for what is not set, everything is kept. -/
theorem kept_of_writesNull {f : SettingsFormat} (h : f.writesNull = true) : ∀ v : Value, f.kept v = v
  | .obj entries => congrArg Value.obj (keptEntries_of_writesNull h entries)
  | .null => rfl
  | .bool _ => rfl
  | .num _ => rfl
  | .str _ => rfl
  | .arr _ => rfl

theorem keptEntries_of_writesNull {f : SettingsFormat} (h : f.writesNull = true) :
    ∀ entries : List (String × Value), f.keptEntries entries = entries
  | [] => rfl
  | (key, v) :: rest => by
      have later := keptEntries_of_writesNull h rest
      have same := kept_of_writesNull h v
      cases v with
      | null =>
          rw [keptEntries, if_pos h, later]
      | _ =>
          rw [keptEntries, later, same]
          all_goals nofun

end

theorem keptEntries_cons (f : SettingsFormat) (key : String) {v : Value} (something : v ≠ .null)
    (rest : List (String × Value)) :
    f.keptEntries ((key, v) :: rest) = (key, f.kept v) :: f.keptEntries rest := by
  cases v with
  | null => exact absurd rfl something
  | _ => rfl

end SettingsFormat

/-! ## 2. Settings from what is kept of them -/

section Fields

variable {α β : Type} {f : SettingsFormat} {key : String} {fields : List (Field α)}
  {es : List (String × Value)} {a c : α}

/-- What is something is kept, and read from what is kept of it. -/
theorem written_something {read : Reader β} {put : β → α → α} {v : Value} {x : β}
    (something : v ≠ .null) (h : read (f.kept v) = .ok x)
    (later : Written fields (f.keptEntries es) (put x a) c) :
    Written (field key read put :: fields) (f.keptEntries ((key, v) :: es)) a c := by
  rw [f.keptEntries_cons key something]
  exact .always h later

theorem written_switch {put : Bool → α → α} {b : Bool}
    (later : Written fields (f.keptEntries es) (put b a) c) :
    Written (field key .switch put :: fields) (f.keptEntries ((key, .bool b) :: es)) a c :=
  written_something nofun rfl later

/-- A choice is read under the name that it is written with. -/
theorem written_name {read : Reader β} {write : β → String} {put : β → α → α} {x : β}
    (h : read (.str (write x)) = .ok x) (later : Written fields (f.keptEntries es) (put x a) c) :
    Written (field key read put :: fields) (f.keptEntries ((key, .str (write x)) :: es)) a c :=
  written_something nofun h later

/-- **An option that is not set stays so**, whether the format has a word for that or leaves it out. -/
theorem written_option {read : Reader β} {write : β → String} {put : Option β → α → α} {o : Option β}
    (h : ∀ x, read (.str (write x)) = .ok x) (unset : put none a = a)
    (later : Written fields (f.keptEntries es) (put o a) c) :
    Written (field key (.optional read) put :: fields)
      (f.keptEntries ((key, .ofText? (o.map write)) :: es)) a c := by
  cases o with
  | none =>
      show Written _ (if f.writesNull then (key, .null) :: f.keptEntries es else f.keptEntries es) a c
      split
      · exact .always rfl later
      · rw [unset] at later
        exact .skip later
  | some x =>
      refine written_something nofun ?_ later
      show (read (.str (write x))).map some = _
      rw [h x]
      rfl

theorem written_text {read : Reader String} {put : Option String → α → α} {o : Option String}
    (h : ∀ s, read (.str s) = .ok s) (unset : put none a = a)
    (later : Written fields (f.keptEntries es) (put o a) c) :
    Written (field key (.optional read) put :: fields) (f.keptEntries ((key, .ofText? o) :: es)) a c := by
  have written : Written (field key (.optional read) put :: fields)
      (f.keptEntries ((key, .ofText? (o.map fun s => s)) :: es)) a c := written_option h unset later
  rwa [Option.map_id'] at written

end Fields

section Choices

theorem read_format (o : OutputFormat) :
    Reader.choice OutputFormat.choices (.str o.text) = .ok o := by
  cases o <;> rfl

theorem read_dialect (d : Dialect) : Reader.choice Dialect.choices (.str d.text) = .ok d := by
  cases d <;> rfl

theorem read_diagramType (d : DiagramType) :
    Reader.choice DiagramType.choices (.str d.text) = .ok d := by
  cases d <;> rfl

theorem read_sortKey (k : SortKey) : Reader.choice SortKey.choices (.str k.text) = .ok k := by
  cases k <;> rfl

end Choices

variable (f : SettingsFormat)

theorem readSite_kept (c : SiteConfig) : Settings.readSite (f.kept c.toValue) = .ok c := by
  refine recordOnce_of_written (by decide) _ ?_
  exact written_text (fun _ => rfl) rfl <| written_name (read_format _) <|
    written_something nofun rfl <| written_text (fun _ => rfl) rfl <|
    written_text (fun _ => rfl) rfl <| written_option read_dialect rfl <|
    written_option read_diagramType rfl <| written_switch <| written_name (read_sortKey _) <|
    written_switch <| written_switch <| written_switch <| written_switch <| written_switch <|
    written_switch <| written_switch <| .done rfl

theorem readOutput_kept (o : OutputSettings) : OutputSettings.read (f.kept o.toValue) = .ok o :=
  recordOnce_of_written (by decide) _ <| written_switch <| written_switch <| .done rfl

theorem readLog_kept (l : LogSettings) : LogSettings.read (f.kept l.toValue) = .ok l :=
  recordOnce_of_written (by decide) _ <| written_text (fun _ => rfl) rfl <|
    written_text (fun _ => rfl) rfl <| written_text (fun _ => rfl) rfl <| .done rfl

/-- **Settings are read from what a format keeps of them.** -/
theorem read_kept (s : Settings) : Settings.read (f.kept s.toValue) = .ok s :=
  recordOnce_of_written (by decide) _ <|
    written_something nofun (readSite_kept f s.site) <|
    written_something nofun (readOutput_kept f s.output) <|
    written_something nofun (readLog_kept f s.logging) <| .done rfl

variable {f}

/-! ## 3. Settings as JSON -/

theorem worded_ofText? (o : Option String) (room : Nat) : (Value.ofText? o).Worded room := by
  cases o <;> cases room <;> exact trivial

/-- Settings hold no numbers, and are two levels deep. -/
theorem worded_toValue (s : Settings) (room : Nat) : s.toValue.Worded (room + 2) := by
  simp [Settings.toValue, SiteConfig.toValue, OutputSettings.toValue, LogSettings.toValue,
    Value.Worded, WordedEntries, worded_ofText?]

/-- **JSON gives all settings back.** -/
theorem faithful_json (s : Settings) : SettingsFormat.json.Faithful s.toValue := by
  unfold SettingsFormat.Faithful
  rw [SettingsFormat.kept_of_writesNull rfl]
  exact Json.readRepeated?_pretty (worded_toValue s 125)

/-! ## 4. Settings as TOML -/

/-- Of values that have lines of their own what is set is kept. -/
theorem keptEntries_flat {es : List (String × Value)} (flat : ∀ e ∈ es, Value.Flat e.2) :
    SettingsFormat.toml.keptEntries es = Toml.present es := by
  induction es with
  | nil => rfl
  | cons e es ih =>
      obtain ⟨key, v⟩ := e
      have later := ih fun x mem => flat x (List.mem_cons_of_mem _ mem)
      have first := flat _ List.mem_cons_self
      cases v with
      | null => exact later
      | bool b => exact congrArg ((key, Value.bool b) :: ·) later
      | str s => exact congrArg ((key, Value.str s) :: ·) later
      | num n => cases first
      | arr l => cases first
      | obj l => cases first

/-- Of tables every one is kept, with what is set in it. -/
theorem kept_ofTables {tables : List (String × List (String × Value))}
    (flat : ∀ t ∈ tables, ∀ e ∈ t.2, Value.Flat e.2) :
    SettingsFormat.toml.kept (Value.ofTables tables) =
      Value.ofTables (tables.map fun t => (t.1, Toml.present t.2)) := by
  refine congrArg Value.obj ?_
  induction tables with
  | nil => rfl
  | cons t tables ih =>
      have first := keptEntries_flat (flat _ List.mem_cons_self)
      have later := ih fun x mem => flat x (List.mem_cons_of_mem _ mem)
      exact congrArg₂ List.cons (congrArg (fun es => (t.1, Value.obj es)) first) later

@[simp] theorem flat_ofText? (o : Option String) : Value.Flat (.ofText? o) := by
  cases o <;> exact trivial

/-- Entries under the keys of fields are read back from TOML if every value has a line of its own. -/
theorem plain_of_fields {α : Type} (fields : List (Field α)) {es : List (String × Value)}
    (same : es.map Prod.fst = fields.map (·.key)) (bare : ∀ key ∈ fields.map (·.key), Toml.Bare key)
    (once : (fields.map (·.key)).Nodup) (flat : ∀ e ∈ es, Value.Flat e.2) : Toml.Plain es where
  bare := fun _ mem => bare _ (same ▸ List.mem_map_of_mem mem)
  flat := flat
  once := same ▸ once

theorem plain_site (c : SiteConfig) : Toml.Plain (Toml.entriesOf c.toValue) :=
  plain_of_fields SiteConfig.fields rfl (by decide) (by decide)
    (by simp [Toml.entriesOf, SiteConfig.toValue])

theorem plain_output (o : OutputSettings) : Toml.Plain (Toml.entriesOf o.toValue) :=
  plain_of_fields OutputSettings.fields rfl (by decide) (by decide)
    (by simp [Toml.entriesOf, OutputSettings.toValue])

theorem plain_logging (l : LogSettings) : Toml.Plain (Toml.entriesOf l.toValue) :=
  plain_of_fields LogSettings.fields rfl (by decide) (by decide)
    (by simp [Toml.entriesOf, LogSettings.toValue])

/-- The tables of settings. -/
def Settings.tables (s : Settings) : List (String × List (String × Value)) :=
  [("generator", Toml.entriesOf s.site.toValue), ("output", Toml.entriesOf s.output.toValue),
   ("logging", Toml.entriesOf s.logging.toValue)]

theorem plain_tables (s : Settings) : ∀ t ∈ s.tables, Toml.Plain t.2 := by
  simp only [Settings.tables, List.forall_mem_cons]
  exact ⟨plain_site _, plain_output _, plain_logging _, List.forall_mem_nil _⟩

/-- **TOML gives all settings back**, but for what is not set. -/
theorem faithful_toml (s : Settings) : SettingsFormat.toml.Faithful s.toValue := by
  have plain := plain_tables s
  have bare : ∀ t ∈ s.tables, Toml.Bare t.1 := by
    have headings : ∀ heading ∈ s.tables.map Prod.fst, Toml.Bare heading := by
      show ∀ heading ∈ ["generator", "output", "logging"], Toml.Bare heading
      decide
    exact fun t mem => headings _ (List.mem_map_of_mem mem)
  have once : (s.tables.map Prod.fst).Nodup := by
    show ["generator", "output", "logging"].Nodup
    decide
  show Toml.read? (Toml.render (Value.ofTables s.tables)) =
    some (SettingsFormat.toml.kept (Value.ofTables s.tables))
  rw [Toml.read?_render bare plain once, kept_ofTables fun t mem => (plain t mem).flat]

/-! ## 5. Settings as YAML -/

/-- Entries under the keys of fields can be written if every value has a line of its own. -/
theorem legible_of_fields {α : Type} (fields : List (Field α)) {es : List (String × Value)}
    (same : es.map Prod.fst = fields.map (·.key)) (once : (fields.map (·.key)).Nodup)
    (words : ∀ key ∈ fields.map (·.key), Yaml.PlainKey key) (flat : ∀ e ∈ es, Value.Flat e.2) :
    Yaml.Legible (.obj es) :=
  Yaml.legible_mapping (same ▸ once) (same ▸ words) fun e mem => Yaml.legible_of_flat (flat e mem)

theorem legible_toValue (s : Settings) : Yaml.Legible s.toValue := by
  have headings : ∀ key ∈ ["generator", "output", "logging"], Yaml.PlainKey key := by decide
  refine Yaml.legible_mapping (show ["generator", "output", "logging"].Nodup by decide) headings ?_
  simp only [List.forall_mem_cons]
  exact ⟨legible_of_fields SiteConfig.fields rfl (by decide) (by decide) (plain_site s.site).flat,
    legible_of_fields OutputSettings.fields rfl (by decide) (by decide) (plain_output s.output).flat,
    legible_of_fields LogSettings.fields rfl (by decide) (by decide) (plain_logging s.logging).flat,
    List.forall_mem_nil _⟩

theorem fits_site (c : SiteConfig) : Yaml.Fits Settings.siteShape c.toValue := by
  refine Yaml.fits_record ?_
  simp only [Yaml.FitsEntries, List.forall_mem_cons]
  exact ⟨⟨_, rfl, Yaml.fits_optionalText _⟩, ⟨_, rfl, Yaml.fits_choice _⟩, ⟨_, rfl, Yaml.fits_text _⟩,
    ⟨_, rfl, Yaml.fits_optionalText _⟩, ⟨_, rfl, Yaml.fits_optionalText _⟩,
    ⟨_, rfl, Yaml.fits_optionalChoice _⟩, ⟨_, rfl, Yaml.fits_optionalChoice _⟩,
    ⟨_, rfl, Yaml.fits_switch _⟩, ⟨_, rfl, Yaml.fits_choice _⟩, ⟨_, rfl, Yaml.fits_switch _⟩,
    ⟨_, rfl, Yaml.fits_switch _⟩, ⟨_, rfl, Yaml.fits_switch _⟩, ⟨_, rfl, Yaml.fits_switch _⟩,
    ⟨_, rfl, Yaml.fits_switch _⟩, ⟨_, rfl, Yaml.fits_switch _⟩, ⟨_, rfl, Yaml.fits_switch _⟩,
    List.forall_mem_nil _⟩

/-- **Every setting is one that its scalar means** where it is wanted. -/
theorem fits_toValue (s : Settings) : Yaml.Fits Settings.shape s.toValue := by
  refine Yaml.fits_record ?_
  simp only [Yaml.FitsEntries, List.forall_mem_cons]
  refine ⟨⟨_, rfl, fits_site s.site⟩, ⟨_, rfl, Yaml.fits_record ?_⟩, ⟨_, rfl, Yaml.fits_record ?_⟩,
    List.forall_mem_nil _⟩
  · simp only [Yaml.FitsEntries, List.forall_mem_cons]
    exact ⟨⟨_, rfl, Yaml.fits_switch _⟩, ⟨_, rfl, Yaml.fits_switch _⟩, List.forall_mem_nil _⟩
  · simp only [Yaml.FitsEntries, List.forall_mem_cons]
    exact ⟨⟨_, rfl, Yaml.fits_optionalText _⟩, ⟨_, rfl, Yaml.fits_optionalText _⟩,
      ⟨_, rfl, Yaml.fits_optionalText _⟩, List.forall_mem_nil _⟩

/-- **YAML gives all settings back.** -/
theorem faithful_yaml (s : Settings) : SettingsFormat.yaml.Faithful s.toValue := by
  unfold SettingsFormat.Faithful
  rw [SettingsFormat.kept_of_writesNull rfl]
  show (Yaml.readShaped Settings.shape (Yaml.render s.toValue)).toOption = some s.toValue
  have back : Yaml.readShaped Settings.shape (Yaml.render s.toValue) = .ok s.toValue :=
    Yaml.readShaped_render (legible_toValue s) (worded_toValue s 126) (fits_toValue s)
  rw [back]
  rfl

/-- **Every format gives all settings back.** -/
theorem faithful (f : SettingsFormat) (s : Settings) : f.Faithful s.toValue := by
  cases f with
  | toml => exact faithful_toml s
  | json => exact faithful_json s
  | yaml => exact faithful_yaml s

/-- A text of settings is read as they are, in the format that it is written in. -/
theorem ofText_textAs (f : SettingsFormat) (s : Settings) : Settings.ofText f (s.textAs f) = .ok s := by
  have given := faithful f s
  unfold SettingsFormat.Faithful at given
  unfold Settings.ofText Settings.textAs
  rw [given]
  dsimp only
  rw [read_kept]
  rfl

/-! ## 6. Files -/

/-- Makes the folders above a file that are missing. -/
def makeFolders (path : String) : OnDisk FileError Unit :=
  match Path.parent? path with
  | some parent => if parent ≠ "" then makeDirs parent else pure ()
  | none => pure ()

/-- **A path can be written**: the folders above it are there or can be made, and then some text can be
    put where it leads to. -/
def Writable (fs : FileSystem) (path : String) : Prop :=
  ∃ made text after, perform (makeFolders path) fs = (.ok (), made) ∧
    made.writeText path text = .ok after

/-- What can be written with one text can be written with another. -/
theorem writeText_other {fs after : FileSystem} {path text : String}
    (h : fs.writeText path text = .ok after) (other : String) :
    ∃ after', fs.writeText path other = .ok after' := by
  obtain ⟨p, located, no_dir, no_slash, sound, _⟩ := FileSystem.writeText_iff.mp h
  exact ⟨_, FileSystem.writeText_iff.mpr ⟨p, located, no_dir, no_slash, sound, rfl⟩⟩

section Saving

variable {s : Settings} {path text : String} {fs made after : FileSystem}

/-- Settings without a text are not saved, and nothing is touched. -/
theorem perform_save_of_error {e : Failure} (h : s.textFor path = .error e) :
    perform (s.save path) fs = (.error e, fs) := by
  unfold Settings.save
  rw [perform_bind, perform_look, h]

/-- **What saving comes to**: the folders above the file are made, and the text is put there. -/
theorem perform_save (h : s.textFor path = .ok text)
    (folders : perform (makeFolders path) fs = (.ok (), made))
    (wrote : made.writeText path text = .ok after) : perform (s.save path) fs = (.ok (), after) := by
  have written : perform (mapError Failure.io (change fun fs => fs.writeText path text)) made =
      (.ok (), after) := by
    rw [perform_mapError, perform_change, wrote]
    rfl
  unfold makeFolders at folders
  unfold Settings.save
  rw [perform_bind, perform_look, h]
  dsimp only
  cases above : Path.parent? path with
  | none =>
      rw [above] at folders
      cases folders
      exact written
  | some parent =>
      rw [above] at folders
      dsimp only at folders ⊢
      split
      · rename_i named
        rw [if_pos named] at folders
        rw [perform_bind, perform_mapError, folders]
        exact written
      · rename_i unnamed
        rw [if_neg unnamed] at folders
        cases folders
        exact written

/-- The settings of a file that has been written are those of its text. -/
theorem ofFile_of_writeText (format : SettingsFormat.ofPath path = .ok f)
    (wrote : made.writeText path text = .ok after) :
    Settings.ofFile after path = Settings.ofText f text := by
  unfold Settings.ofFile
  rw [FileSystem.pathExists_of_writeText wrote, FileSystem.readText_of_writeText wrote, format]
  rfl

/-- The extensions of settings files are those that name a format. -/
theorem ofPath_of_extension {extension : String} (h : Path.extension? path = some extension)
    (known : extension ∈ ["toml", "yaml", "yml", "json"]) : ∃ f, SettingsFormat.ofPath path = .ok f := by
  unfold SettingsFormat.ofPath
  rw [h]
  simp only [List.mem_cons, List.not_mem_nil, or_false] at known
  rcases known with rfl | rfl | rfl | rfl
  · exact ⟨_, rfl⟩
  · exact ⟨_, rfl⟩
  · exact ⟨_, rfl⟩
  · exact ⟨_, rfl⟩

theorem ofPath_of_other
    (h : ∀ extension ∈ ["toml", "yaml", "yml", "json"], Path.extension? path ≠ some extension) :
    SettingsFormat.ofPath path = .error (.settings ("Unsupported config file format: " ++ path)) := by
  unfold SettingsFormat.ofPath
  split
  · rename_i toml
    exact absurd toml (h _ (by decide))
  · rename_i yaml
    exact absurd yaml (h _ (by decide))
  · rename_i yml
    exact absurd yml (h _ (by decide))
  · rename_i json
    exact absurd json (h _ (by decide))
  · rfl

end Saving

/-- **Saved settings are read back.** At every path that can be written and has the extension of a
    format, saving succeeds, and the file then holds the same settings. At a path with another
    extension, or none, saving fails and touches nothing. -/
theorem ofFile_save (s : Settings) (fs : FileSystem) (path : String) :
    ((∃ extension ∈ ["toml", "yaml", "yml", "json"], Path.extension? path = some extension) →
      Writable fs path →
      ∃ after, perform (s.save path) fs = (.ok (), after) ∧ Settings.ofFile after path = .ok s) ∧
    ((∀ extension ∈ ["toml", "yaml", "yml", "json"], Path.extension? path ≠ some extension) →
      perform (s.save path) fs =
        (.error (.settings ("Unsupported config file format: " ++ path)), fs)) := by
  constructor
  · rintro ⟨extension, known, named⟩ ⟨made, _, _, folders, writes⟩
    obtain ⟨f, format⟩ := ofPath_of_extension named known
    have hasText : s.textFor path = .ok (s.textAs f) := by
      unfold Settings.textFor
      rw [format]
      rfl
    obtain ⟨after, wrote⟩ := writeText_other writes (s.textAs f)
    refine ⟨after, perform_save hasText folders wrote, ?_⟩
    rw [ofFile_of_writeText format wrote]
    exact ofText_textAs f s
  · intro other
    refine perform_save_of_error ?_
    unfold Settings.textFor
    rw [ofPath_of_other other]
    rfl

/-- Settings are saved below a folder that is made for them. -/
theorem ofFile_save_nested : ∃ after,
    perform (Settings.ofNewProject.save "nested/settings.json") {} = (.ok (), after) ∧
      Settings.ofFile after "nested/settings.json" = .ok Settings.ofNewProject :=
  (ofFile_save Settings.ofNewProject {} "nested/settings.json").1
    ⟨"json", by decide, by decide +kernel⟩ ⟨_, "", _, rfl, rfl⟩

end SchemaPages.CommandLine
