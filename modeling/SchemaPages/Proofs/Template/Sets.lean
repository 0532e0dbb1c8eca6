import SchemaPages.Template.Set
/-!
# Sets of templates

Templates are loaded with an engine, and the text of a page is what the one template of its kind makes
of the names of the page. Where templates cannot be loaded the configuration is wrong; where a template
makes nothing of a page it is not.

* `TemplateSet.Makes`, `makes_of_render`: what a template of a set makes;
* `TemplateSet.Loaded`, `loaded_of_load`: the templates that an engine and the built-in ones give;
* `load_error`, `render_error`: the errors;
* `load_builtin`, `lookup_builtin`: without templates of one's own.
-/

namespace SchemaPages

open Template

namespace TemplateSet

variable {engine : TemplateEngine} {fs : FileSystem} {e : SiteError}

/-! ## 1. Texts -/

/-- **What the template of a name makes of names**: one of one's own whatever the engine takes it for,
    and a built-in one, where there is none of one's own, what its parts are rendered to. -/
inductive Makes (t : TemplateSet) (name : String) (names : Names) (text : String) : Prop
  | own {template : CustomTemplate} (found : t.own.lookup name = some template)
      (made : template t.short (t.builtin.map (·.1)) names = some text) : Makes t name names text
  | builtin {parts : List Part} (other : t.own.lookup name = none)
      (found : t.builtin.lookup name = some parts)
      (made : Template.render t.short names parts = .ok text) : Makes t name names text

theorem toOption_eq_some_iff {ε α : Type} {x : Except ε α} {a : α} :
    x.toOption = some a ↔ x = .ok a := by
  cases x with
  | error e => exact ⟨nofun, nofun⟩
  | ok b => exact ⟨fun h => by cases h; rfl, fun h => by cases h; rfl⟩

theorem makes_of_renderNamed {t : TemplateSet} {name : String} {names : Names} {text : String}
    (h : t.renderNamed name names = some text) : t.Makes name names text := by
  unfold renderNamed at h
  cases found : t.own.lookup name with
  | some template =>
      rw [found] at h
      exact .own found h
  | none =>
      rw [found] at h
      obtain ⟨parts, builtin, made⟩ := Option.bind_eq_some_iff.mp h
      exact .builtin found builtin (toOption_eq_some_iff.mp made)

/-- **The text of a page is what the template of its kind makes.** -/
theorem makes_of_render {t : TemplateSet} {k : TemplateKind} {names : Names} {text : String}
    (h : t.render k names = .ok text) : t.Makes (k.fileName t.format) names text := by
  unfold render at h
  split at h
  · rename_i made
    cases h
    exact makes_of_renderNamed made
  · cases h

theorem render_error {t : TemplateSet} {k : TemplateKind} {names : Names}
    (h : t.render k names = .error e) : e.isConfigError = false := by
  unfold render at h
  split at h
  · cases h
  · cases h; rfl

/-! ## 2. Loading -/

/-- **The templates of a set**: those that the engine finds in the directory, if there is one, and
    built-in ones for Markdown, each by the name of its kind's file. -/
structure Loaded (engine : TemplateEngine) (fs : FileSystem) (f : OutputFormat)
    (directory : Option String) (short : Bool) (t : TemplateSet) : Prop where
  format : t.format = f
  short : t.short = short
  none_own : directory = none → t.own = []
  own : ∀ d, directory = some d → fs.isDir d = true ∧ engine.load fs d = some t.own
  builtin : ∀ name parts, (name, parts) ∈ t.builtin →
    f = .markdown ∧ ∃ k : TemplateKind, name = k.fileName f ∧ parts = k.builtin

theorem custom_error {directory : Option String}
    (h : custom engine fs directory = .error e) : e.isConfigError = true := by
  unfold custom at h
  cases directory with
  | none => cases h
  | some d =>
      dsimp only at h
      split at h
      · split at h
        · cases h
        · cases h; rfl
      · cases h; rfl

theorem own_of_custom {directory : Option String} {own : List (String × CustomTemplate)}
    (h : custom engine fs directory = .ok own) :
    (directory = none → own = []) ∧
      ∀ d, directory = some d → fs.isDir d = true ∧ engine.load fs d = some own := by
  unfold custom at h
  cases directory with
  | none =>
      cases h
      exact ⟨fun _ => rfl, nofun⟩
  | some d =>
      dsimp only at h
      split at h
      · rename_i there
        split at h
        · rename_i templates found
          cases h
          exact ⟨nofun, fun _ same => by cases same; exact ⟨there, found⟩⟩
        · cases h
      · cases h

section Load

variable {f : OutputFormat} {directory : Option String} {kinds : List TemplateKind} {short : Bool}

/-- Templates that cannot be loaded are an error of the configuration. -/
theorem load_error (h : load engine fs f directory kinds short = .error e) :
    e.isConfigError = true := by
  unfold load at h
  cases hc : custom engine fs directory with
  | error e' =>
      rw [hc] at h
      cases h
      exact custom_error hc
  | ok own =>
      rw [hc] at h
      simp only [bind, Except.bind] at h
      split at h
      · cases h
      · split at h
        · cases h
        · cases h; rfl

/-- **What is loaded is what the engine finds, with built-in templates beside it.** -/
theorem loaded_of_load {t : TemplateSet} (h : load engine fs f directory kinds short = .ok t) :
    t.Loaded engine fs f directory short := by
  unfold load at h
  cases hc : custom engine fs directory with
  | error e' => rw [hc] at h; cases h
  | ok own =>
      obtain ⟨none_own, some_own⟩ := own_of_custom hc
      rw [hc] at h
      simp only [bind, Except.bind] at h
      split at h
      · cases h
        refine ⟨rfl, rfl, none_own, some_own, fun name parts mem => ⟨rfl, ?_⟩⟩
        obtain ⟨k, _, same⟩ := List.mem_map.mp mem
        cases same
        exact ⟨k, rfl, rfl⟩
      · split at h
        · cases h
          exact ⟨rfl, rfl, none_own, some_own, nofun⟩
        · cases h

end Load

/-! ## 3. Built-in templates -/

/-- Templates of different kinds have different files. -/
theorem fileName_markdown_inj {a b : TemplateKind} (h : a.fileName .markdown = b.fileName .markdown) :
    a = b := by
  cases a <;> cases b <;> first | rfl | exact absurd h (by decide +kernel)

/-- **The built-in templates are found by the names of their files.** -/
theorem lookup_builtin {kinds : List TemplateKind} {k : TemplateKind} (hk : k ∈ kinds) :
    (kinds.map fun k => (k.fileName .markdown, k.builtin)).lookup (k.fileName .markdown) =
      some k.builtin := by
  induction kinds with
  | nil => cases hk
  | cons other rest ih =>
      rw [List.map_cons, List.lookup_cons]
      by_cases same : k = other
      · rw [same, beq_self_eq_true]
      · have differs : (k.fileName .markdown == other.fileName .markdown) = false :=
          beq_eq_false_iff_ne.mpr fun h => same (fileName_markdown_inj h)
        rw [differs]
        exact ih ((List.mem_cons.mp hk).resolve_left same)

/-- **With no templates of one's own, loading takes the built-in ones** and asks no engine. -/
theorem load_builtin (engine : TemplateEngine) (fs : FileSystem) (kinds : List TemplateKind)
    (short : Bool) : load engine fs .markdown none kinds short =
      .ok ⟨.markdown, short, [], kinds.map fun k => (k.fileName .markdown, k.builtin)⟩ := by
  have all : uncovered [] .markdown kinds = kinds := List.filter_eq_self.mpr fun k _ => rfl
  show Except.ok (TemplateSet.mk .markdown short []
    ((uncovered [] .markdown kinds).map fun k => (k.fileName .markdown, k.builtin))) = _
  rw [all]

end TemplateSet

end SchemaPages
