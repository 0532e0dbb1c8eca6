import SchemaPages.CommandLine.Output
import SchemaPages.CommandLine.Settings
/-!
# Options

The commands of the program and the options of each.

* `Level`: a place in the tree of commands;
* `OptionSpec`: an option or an argument, with what it takes;
* `Level.options`, `Level.argument?`, `Level.commands`.
-/

namespace SchemaPages.CommandLine

/-! ## 1. What options take -/

/-- What an option takes. -/
inductive Takes where
  /-- Nothing: the option is given or not. -/
  | nothing
  /-- Nothing, but it counts how often the option is given. -/
  | repetition
  | text
  /-- A text that is not empty. -/
  | path
  | oneOf (names : List String)
  /-- Nothing: the option asks for help. -/
  | help
  /-- Nothing: the option asks for the version. -/
  | version
  deriving DecidableEq, Repr

namespace Takes

/-- Whether a value has to follow. -/
def needsValue : Takes → Bool
  | .text => true
  | .path => true
  | .oneOf _ => true
  | _ => false

/-- Whether a value may follow. -/
def accepts : Takes → String → Bool
  | .path, v => v ≠ ""
  | .oneOf names, v => names.contains v
  | _, _ => true

end Takes

/-- An option, or an argument that is known by its place. -/
structure OptionSpec where
  name : String
  short : Option Char
  takes : Takes
  deriving DecidableEq, Repr

/-! ## 2. Commands -/

/-- The shells that completions can be made for. -/
def shells : List String := ["bash", "zsh", "fish", "power-shell", "elvish"]

/-- The kinds of diagram by the names that arguments have for them. -/
def diagramChoices : List (String × DiagramType) :=
  [("mermaid-class-diagram", .mermaidClass), ("plantuml-class-diagram", .plantUmlClass),
   ("er-diagram", .er)]

/-- A place in the tree of commands. -/
inductive Level where
  | program
  | generate
  | config
  | configInit
  | configShow
  | completions
  deriving DecidableEq, Repr, Inhabited

namespace Level

/-- The commands below a command. -/
def commands : Level → List (String × Level)
  | .program => [("generate", .generate), ("config", .config), ("completions", .completions)]
  | .config => [("init", .configInit), ("show", .configShow)]
  | _ => []

/-- The argument that a command needs. -/
def argument? : Level → Option OptionSpec
  | .generate => some ⟨"<schema>", none, .path⟩
  | .completions => some ⟨"<shell>", none, .oneOf shells⟩
  | _ => none

/-- The names of choices. -/
def names {α : Type} (choices : List (String × α)) : Takes := .oneOf (choices.map (·.1))

/-- The options that every command has. -/
def commonOptions : List OptionSpec :=
  [⟨"verbose", some 'v', .repetition⟩, ⟨"quiet", some 'q', .nothing⟩,
   ⟨"config", some 'c', .path⟩, ⟨"output", some 'o', names ReportFormat.choices⟩,
   ⟨"no-color", none, .nothing⟩, ⟨"help", some 'h', .help⟩, ⟨"version", some 'V', .version⟩]

/-- The options of a command alone. -/
def ownOptions : Level → List OptionSpec
  | .generate =>
    [⟨"directory", some 'd', .path⟩, ⟨"format", some 'f', names OutputFormat.choices⟩,
     ⟨"template-directory", none, .path⟩, ⟨"example-directory", none, .path⟩,
     ⟨"index-name", none, .text⟩, ⟨"dialect", none, names Dialect.choices⟩,
     ⟨"diagram-type", none, names diagramChoices⟩, ⟨"include-top-level-diagram", none, .nothing⟩,
     ⟨"sort-by", none, names SortKey.choices⟩, ⟨"subfolder-type-separation", none, .nothing⟩,
     ⟨"no-truncate-descriptions", none, .nothing⟩, ⟨"use-slot-uris", none, .nothing⟩,
     ⟨"use-class-uris", none, .nothing⟩, ⟨"hierarchical-class-view", none, .nothing⟩,
     ⟨"render-imports", none, .nothing⟩, ⟨"genmeta", none, .nothing⟩,
     ⟨"dry-run", none, .nothing⟩]
  | .configInit => [⟨"path", none, .path⟩, ⟨"force", none, .nothing⟩]
  | .configShow => [⟨"format", some 'f', names SettingsFormat.choices⟩]
  | _ => []

/-- The options of a command. -/
def options (l : Level) : List OptionSpec := l.ownOptions ++ commonOptions

/-- The option of a long name. -/
def long? (l : Level) (name : String) : Option OptionSpec := l.options.find? (·.name == name)

/-- The option of a short name. -/
def short? (l : Level) (c : Char) : Option OptionSpec := l.options.find? (·.short == some c)

end Level

end SchemaPages.CommandLine
