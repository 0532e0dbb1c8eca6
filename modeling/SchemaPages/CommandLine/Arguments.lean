import SchemaPages.CommandLine.Match
/-!
# Arguments

* `Command`, `Arguments`: what the program is asked to do, and how;
* `Arguments.read`: the arguments as they are given;
* `GenerateArguments.configure`: a configuration with what the arguments say. Values replace those
  configured; switches only turn on.
-/

namespace SchemaPages.CommandLine

/-! ## 1. Commands -/

/-- The arguments for making a site. -/
structure GenerateArguments where
  schema : String
  directory : Option String := none
  format : Option OutputFormat := none
  templateDirectory : Option String := none
  exampleDirectory : Option String := none
  indexName : Option String := none
  dialect : Option Dialect := none
  diagramType : Option DiagramType := none
  topLevelDiagram : Bool := false
  sortBy : Option SortKey := none
  foldersByKind : Bool := false
  longDescriptions : Bool := false
  slotUris : Bool := false
  classUris : Bool := false
  classTree : Bool := false
  listImports : Bool := false
  documentBasicTypes : Bool := false
  /-- Whether the plan is printed and nothing written. -/
  dryRun : Bool := false
  deriving DecidableEq, Repr, Inhabited

/-- What the program is asked to do. -/
inductive Command where
  | generate (args : GenerateArguments)
  | initSettings (path : Option String) (force : Bool)
  | showSettings (format : SettingsFormat)
  | completions (shell : String)
  deriving DecidableEq, Repr, Inhabited

/-- All arguments. -/
structure Arguments where
  verbosity : Nat := 0
  quiet : Bool := false
  /-- The settings file. -/
  settings : Option String := none
  format : ReportFormat := .human
  noColor : Bool := false
  command : Command
  deriving DecidableEq, Repr, Inhabited

/-! ## 2. Reading -/

namespace Matches

/-- The choice that the value of an option names. -/
def choice? {α : Type} (m : Matches) (name : String) (choices : List (String × α)) : Option α :=
  (m.value? name).bind fun v => choices.lookup v

end Matches

/-- The arguments for making a site. -/
def GenerateArguments.ofMatches (m : Matches) : GenerateArguments where
  schema := (m.value? "<schema>").getD ""
  directory := m.value? "directory"
  format := m.choice? "format" OutputFormat.choices
  templateDirectory := m.value? "template-directory"
  exampleDirectory := m.value? "example-directory"
  indexName := m.value? "index-name"
  dialect := m.choice? "dialect" Dialect.choices
  diagramType := m.choice? "diagram-type" diagramChoices
  topLevelDiagram := m.has "include-top-level-diagram"
  sortBy := m.choice? "sort-by" SortKey.choices
  foldersByKind := m.has "subfolder-type-separation"
  longDescriptions := m.has "no-truncate-descriptions"
  slotUris := m.has "use-slot-uris"
  classUris := m.has "use-class-uris"
  classTree := m.has "hierarchical-class-view"
  listImports := m.has "render-imports"
  documentBasicTypes := m.has "genmeta"
  dryRun := m.has "dry-run"

/-- The command of the innermost level. -/
def Command.ofMatches (l : Level) (m : Matches) : Except UsageError Command :=
  match l with
  | .generate => .ok (.generate (.ofMatches m))
  | .configInit => .ok (.initSettings (m.value? "path") (m.has "force"))
  | .configShow => .ok (.showSettings ((m.choice? "format" SettingsFormat.choices).getD .toml))
  | .completions => .ok (.completions ((m.value? "<shell>").getD ""))
  | .program => .error .missingCommand
  | .config => .error .missingCommand

namespace Arguments

/-- The value of an option at the innermost level that gives it. -/
def innermost? {α : Type} (get : Matches → Option α) (levels : List (Level × Matches)) : Option α :=
  levels.reverse.findSome? fun (_, m) => get m

/-- The arguments as they are given. The environment may name a settings file in their place. -/
def read (env : Environment) (args : List String) : Except UsageError Arguments := do
  let levels ← matchArguments env.settings args
  let (l, m) := levels.getLast?.getD (.program, {})
  let command ← Command.ofMatches l m
  return {
    verbosity :=
      (innermost? (fun m => if m.verbosity = 0 then none else some m.verbosity) levels).getD 0
    quiet := levels.any fun (_, m) => m.has "quiet"
    settings := (innermost? (·.value? "config") levels).or env.settings
    format := (innermost? (·.choice? "output" ReportFormat.choices) levels).getD .human
    noColor := levels.any fun (_, m) => m.has "no-color"
    command }

/-- How much is logged: a quiet program logs as if nothing had been asked for. -/
def effectiveVerbosity (a : Arguments) : Nat := if a.quiet then 0 else a.verbosity

end Arguments

/-! ## 3. Configurations -/

/-- A configuration with what the arguments say. -/
def GenerateArguments.configure (a : GenerateArguments) (c : SiteConfig) : SiteConfig where
  directory := a.directory.or c.directory
  format := a.format.getD c.format
  indexName := a.indexName.getD c.indexName
  templateDirectory := a.templateDirectory.or c.templateDirectory
  exampleDirectory := a.exampleDirectory.or c.exampleDirectory
  dialect := a.dialect.or c.dialect
  diagramType := a.diagramType.or c.diagramType
  topLevelDiagram := c.topLevelDiagram || a.topLevelDiagram
  sortBy := a.sortBy.getD c.sortBy
  foldersByKind := c.foldersByKind || a.foldersByKind
  shortDescriptions := c.shortDescriptions && !a.longDescriptions
  slotUris := c.slotUris || a.slotUris
  classUris := c.classUris || a.classUris
  classTree := c.classTree || a.classTree
  listImports := c.listImports || a.listImports
  documentBasicTypes := c.documentBasicTypes || a.documentBasicTypes

end SchemaPages.CommandLine
