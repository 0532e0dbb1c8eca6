import SchemaPages.Data.Json.Printer
import SchemaPages.Data.Yaml.Printer
import SchemaPages.Site.Generation
/-!
# What the program prints

Messages are for people only; reports are printed in the format that was asked for.

* `ReportFormat`, `ReportFormat.write`;
* `Output`: how to print, with the text of each kind of message;
* `Output.plan`, `Output.report`.
-/

namespace SchemaPages.CommandLine

/-! ## 1. Formats and colours -/

/-- The formats of reports. -/
inductive ReportFormat where
  | human
  | json
  | yaml
  | jsonPretty
  deriving DecidableEq, Repr, Inhabited

namespace ReportFormat

/-- The formats by name. -/
def choices : List (String × ReportFormat) :=
  [("human", .human), ("json", .json), ("yaml", .yaml), ("json-pretty", .jsonPretty)]

/-- The text of a value. -/
def write : ReportFormat → Value → String
  | .json, v => Json.compact v
  | .yaml, v => Yaml.render v
  | _, v => Json.pretty v

end ReportFormat

/-- The colours of messages. -/
inductive Color where
  | blue
  | green
  | yellow
  | brightBlue
  deriving DecidableEq, Repr

namespace Color

/-- The number of a colour on a terminal. -/
def code : Color → String
  | .blue => "34"
  | .green => "32"
  | .yellow => "33"
  | .brightBlue => "94"

/-- What turns a colour on. -/
def start (c : Color) : String := "\x1b[" ++ c.code ++ "m"

/-- What turns all colours off. -/
def stop : String := "\x1b[0m"

/-- Turns the colour on again behind each place of a text that turns it off. The first number counts
the characters of such a place that are still to come. -/
def resume (on : List Char) : Nat → List Char → List Char
  | _, [] => []
  | 1, c :: rest => c :: on ++ resume on 0 rest
  | left + 2, c :: rest => c :: resume on (left + 1) rest
  | 0, c :: rest =>
    if stop.toList.isPrefixOf (c :: rest) then c :: resume on (stop.length - 1) rest
    else c :: resume on 0 rest

/-- A text in a colour. -/
def paint (c : Color) (s : String) : String :=
  c.start ++ String.ofList (resume c.start.toList 0 s.toList) ++ stop

end Color

/-! ## 2. Messages -/

/-- How the program prints. -/
structure Output where
  format : ReportFormat := .human
  color : Bool := false
  /-- Whether messages that are not warnings are left out. -/
  quiet : Bool := false
  deriving DecidableEq, Repr, Inhabited

namespace Output

/-- A text on a line of its own. -/
def line (s : String) : String := s ++ "\n"

/-- Whether messages are for people. -/
def isHuman (o : Output) : Bool := o.format == .human

/-- Whether messages other than warnings are printed. -/
def speaks (o : Output) : Bool := o.isHuman && !o.quiet

/-- A text in a colour, where there are colours. -/
def painted (o : Output) (c : Color) (s : String) : String := if o.color then c.paint s else s

/-- A message. -/
def info (o : Output) (s : String) : String :=
  if !o.speaks then ""
  else if o.color then line (Color.blue.paint "ℹ" ++ " " ++ s)
  else line ("INFO: " ++ s)

/-- A message of success. -/
def success (o : Output) (s : String) : String :=
  if o.speaks then line (o.painted .green s) else ""

/-- A warning, which is printed even where other messages are left out. -/
def warning (o : Output) (s : String) : String :=
  if !o.isHuman then ""
  else if o.color then line (Color.yellow.paint s)
  else line ("WARNING: " ++ s)

/-- The title of a section. -/
def sectionTitle (o : Output) (title : String) : String :=
  if !o.speaks then ""
  else if o.color then "\n" ++ line (Color.brightBlue.paint ("═══ " ++ title ++ " ═══"))
  else "\n" ++ line ("=== " ++ title ++ " ===")

/-- A value in the format of reports. -/
def data (o : Output) (v : Value) : String :=
  if o.isHuman then line (o.format.write v) else o.format.write v

/-! ## 3. Reports -/

/-- How many elements have no page. -/
def skippedSummary (o : Output) (skipped : List Skipped) : String :=
  if skipped = [] then "" else o.info (toString skipped.length ++ " external elements skipped")

/-- A text with blanks behind it up to a width. -/
def padded (width : Nat) (s : String) : String :=
  s ++ String.ofList (List.replicate (width - s.length) ' ')

/-- The line of a document in a plan. -/
def documentLine (d : Document) : String := line ("  " ++ padded 8 d.template.text ++ " " ++ d.path)

/-- A plan. -/
def plan (o : Output) (p : Plan) : String :=
  if !o.isHuman then o.data p.toValue
  else
    o.sectionTitle "Document Plan" ++ String.join (p.documents.map documentLine)
      ++ o.skippedSummary p.skipped

/-- The report of a site that has been written. -/
def report (o : Output) (r : Report) : String :=
  if !o.isHuman then o.data r.toValue
  else
    o.success ("✓ Wrote " ++ toString r.written.length ++ " documents") ++ o.skippedSummary r.skipped

end Output

end SchemaPages.CommandLine
