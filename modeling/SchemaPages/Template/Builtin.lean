import SchemaPages.Template.Render
/-!
# The built-in templates

Templates for pages in Markdown, of the parts that several of them share and of their own.

* `indexTemplate`, `schemaTemplate`, `classTemplate`, `slotTemplate`, `enumTemplate`,
  `typeTemplate`, `subsetTemplate`.
-/

namespace SchemaPages.Template

/-! ## 1. Shared parts -/

/-- The way to a field of the page. -/
def page (field : String) : Way := ["page", field]

/-- A value as it is. -/
def plain (way : Way) : Part := .value way []

/-- A value in the cell of a table. -/
def cell (way : Way) : Part := .value way [.cellText]

/-- Parts that are there if a value is true. -/
def ifTrue (way : Way) (parts : List Part) : Part := .ifAny [way] parts []

/-- A line that shows a value, if there is one. -/
def lineIf (way : Way) (start stop : String) : Part :=
  ifTrue way [.text start, plain way, .text stop]

/-- A table: its head, and the cells of a row for each item. -/
def table (head rule : String) (name : String) (way : Way) (row : List Part) : List Part :=
  [.text (head ++ "\n" ++ rule ++ "\n"),
   .forEach name way (.text "| " :: row ++ [.text " |\n"])]

/-- The line under the head of a table. -/
def ruleOf : Nat → String
  | 2 => "| --- | --- |"
  | 3 => "| --- | --- | --- |"
  | _ => "| --- | --- | --- | --- |"

/-- A list with a bullet for each item. -/
def bullets (name : String) (way : Way) (start : String) : Part :=
  .forEach name way [.text start, plain [name], .text "\n"]

/-- The heading of a section. -/
def heading (title : String) : Part := .text ("\n## " ++ title ++ "\n\n")

/-- The table of elements of a kind. -/
def listing (title kind field : String) (before : List Part) : List Part :=
  heading title ::
    table ("| " ++ kind ++ " | Description |") (ruleOf 2) "row" (page field)
      (before ++ [plain ["row", "link"], .text " | ", cell ["row", "description"]])

/-- The table of elements of a kind, if there are any. -/
def listingIf (title kind field : String) : Part :=
  ifTrue (page field) (listing title kind field [])

/-- The description in italics. -/
def italicDescription : Part :=
  ifTrue (page "description")
    [.text "_", .value (page "description") [.webText], .text "_\n\n"]

/-- The list of subsets. -/
def subsetBullets : Part :=
  ifTrue (page "in_subset") [heading "In Subsets", bullets "subset" (page "in_subset") "* "]

/-- The section about where an element comes from, up to its schema. -/
def originSection : List Part :=
  [heading "Identifier and Mapping Information",
   lineIf (page "from_schema") "* from schema: " "\n"]

/-- A value as a block of YAML. -/
def yamlBlock (field : String) : List Part :=
  [.text "\x60\x60\x60yaml\n", plain (page field), .text "\x60\x60\x60\n"]

/-- The head of the page of an element. -/
def elementHead (kind : String) : List Part :=
  [.text ("# " ++ kind ++ ": "), plain (page "name"), .text "\n\n", italicDescription]

/-- The head of the page of a schema. -/
def schemaHead : List Part :=
  [.text "# ", plain (page "title"), .text "\n\n",
   ifTrue (page "description") [plain (page "description"), .text "\n\n"],
   .text "URI: ", plain (page "id"), .text "\n\nName: ", plain (page "name"), .text "\n",
   lineIf (page "version") "\nVersion: " "\n",
   lineIf (page "license") "\nLicense: " "\n"]

/-! ## 2. The index and schemas -/

/-- The index. -/
def indexTemplate : List Part :=
  schemaHead ++
    [.text "\n",
     ifTrue (page "diagram") [heading "Schema Diagram", plain (page "diagram"), .text "\n"]]
  ++ listing "Classes" "Class" "classes"
    [.repeated ["row", "depth"] [.text "&nbsp;&nbsp;&nbsp;&nbsp;"]]
  ++ listing "Slots" "Slot" "slots" []
  ++ listing "Enumerations" "Enumeration" "enums" []
  ++ listing "Types" "Type" "types" []
  ++ listing "Subsets" "Subset" "subsets" []
  ++ [.text "\n"]

/-- The page of a schema. -/
def schemaTemplate : List Part :=
  schemaHead ++
    [.ifAny [page "is_root"]
       [.text "\nThis is the root schema of ", plain ["settings", "schema_title"], .text ".\n"]
       [.text "\nImported by ", plain ["settings", "schema_title"], .text ".\n"],
     ifTrue (page "imports") [heading "Imports", bullets "import" (page "imports") "* "],
     listingIf "Classes" "Class" "classes",
     listingIf "Slots" "Slot" "slots",
     listingIf "Enumerations" "Enumeration" "enums",
     listingIf "Types" "Type" "types",
     .text "\n"]

/-! ## 3. Classes -/

/-- The table of a class's slots. -/
def slotTable : List Part :=
  heading "Slots" ::
    table "| Name | Cardinality and Range | Description | Inheritance |" (ruleOf 4) "slot"
      (page "slots")
      [plain ["slot", "link"], .text " | ", plain ["slot", "cardinality"], .text " <br/> ",
       plain ["slot", "range"], .text " | ", cell ["slot", "description"], .text " | ",
       .ifAny [["slot", "inherited_from"]] [.value ["slot", "inherited_from"] [.join ", "]]
         [.text "direct"]]

/-- The slots from each mixin. -/
def mixinSections : Part :=
  .forEach "mixin" (page "mixin_slots")
    [.text "\n### Mixed in from ", plain ["mixin", "mixin"], .text "\n\n",
     bullets "slot" ["mixin", "slots"] "* "]

/-- The table of slots that lead to a class. -/
def classUsages : Part :=
  ifTrue (page "usages") <|
    heading "Usages" ::
      table "| used by | used in | type | used |" (ruleOf 4) "usage" (page "usages")
        [plain ["usage", "used_by"], .text " | ", plain ["usage", "used_in"], .text " | ",
         plain ["usage", "usage"], .text " | ", plain (page "name")]

/-- A condition of a rule in a cell. -/
def conditionCell (field : String) : Part := lineIf ["rule", field] "\x60" "\x60"

/-- The table of a class's rules. -/
def ruleTable : Part :=
  ifTrue (page "rules") <|
    heading "Rules" ::
      table "| Rule Applied | Preconditions | Postconditions | Elseconditions |" (ruleOf 4) "rule"
        (page "rules")
        [plain ["rule", "title"], .text " | ", conditionCell "preconditions", .text " | ",
         conditionCell "postconditions", .text " | ", conditionCell "elseconditions"]

/-- The aliases, comments and references of a class. -/
def commentSection : Part :=
  .ifAny [page "aliases", page "comments", page "see_also"]
    [heading "Comments", bullets "alias" (page "aliases") "* alias: ",
     bullets "comment" (page "comments") "* ", bullets "see" (page "see_also") "* see also: "] []

/-- The examples of a class. -/
def exampleSections : Part :=
  ifTrue (page "examples")
    [.text "\n## Examples\n",
     .forEach "example" (page "examples")
       [.text "\n### Example: ", plain ["example", "name"], .text "\n\n\x60\x60\x60",
        plain ["example", "format"], .text "\n", .value ["example", "content"] [.trim],
        .text "\n\x60\x60\x60\n"]]

/-- The page of a class. -/
def classTemplate : List Part :=
  elementHead "Class" ++
    [ifTrue (page "is_abstract")
       [.text
         "* __NOTE__: this is an abstract class and should not be instantiated directly\n"],
     ifTrue (page "is_mixin")
       [.text ("* __NOTE__: this is a mixin class intended to be used in combination with other "
          ++ "classes, and not used directly\n")],
     .text "\nURI: ", plain (page "uri_link"), .text "\n",
     ifTrue (page "diagram") [.text "\n", plain (page "diagram"), .text "\n"],
     heading "Inheritance", plain (page "tree")]
  ++ slotTable
  ++ [mixinSections, classUsages, ruleTable, subsetBullets, commentSection, exampleSections]
  ++ originSection
  ++ [.text "* native: ", plain (page "curie"), .text "\n\n## LinkML Source\n\n### Direct\n\n"]
  ++ yamlBlock "source_yaml"
  ++ [.text "\n### Induced\n\n"]
  ++ yamlBlock "induced_yaml"

/-! ## 4. Other elements -/

/-- The table of classes that a slot applies to. -/
def applicableTable : Part :=
  ifTrue (page "applicable_classes") <|
    heading "Applicable Classes" ::
      table "| Name | Description | Modifies Slot |" (ruleOf 3) "class" (page "applicable_classes")
        [plain ["class", "link"], .text " | ", cell ["class", "description"], .text " | ",
         .ifAny [["class", "direct"]] [.text "no"] [.text "yes"]]

/-- The page of a slot. -/
def slotTemplate : List Part :=
  elementHead "Slot" ++
    [.text "URI: ", plain (page "uri_link"), .text "\n", heading "Inheritance",
     plain (page "tree"), heading "Properties",
     .text "* Range: ", plain (page "range"),
     .text "\n* Cardinality: ", plain (page "cardinality"), .text "\n",
     lineIf (page "domain") "* Domain: " "\n",
     lineIf (page "value_range") "* Value range: " "\n",
     lineIf (page "pattern") "* Regex pattern: \x60" "\x60\n",
     ifTrue (page "identifier") [.text "* This slot is an identifier\n"],
     ifTrue (page "required") [.text "* Required\n"],
     ifTrue (page "recommended") [.text "* Recommended\n"],
     ifTrue (page "multivalued") [.text "* Multivalued\n"],
     applicableTable, subsetBullets]
  ++ originSection
  ++ [.text "* native: ", plain (page "curie"), .text "\n", heading "LinkML Source"]
  ++ yamlBlock "source_yaml"

/-- The table of permissible values. -/
def valueTable : List Part :=
  heading "Permissible Values" ::
    table "| Value | Meaning | Description |" (ruleOf 3) "pv" (page "permissible_values")
      [plain ["pv", "text"], .text " | ",
       .ifAny [["pv", "meaning"]] [plain ["pv", "meaning"]] [.text "None"],
       .text " | ", cell ["pv", "description"]]

/-- The table of slots that lead to an enumeration. -/
def enumUsages : Part :=
  ifTrue (page "usages") <|
    heading "Slots" ::
      table "| Name | Used by |" (ruleOf 2) "usage" (page "usages")
        [plain ["usage", "used_in"], .text " | ", plain ["usage", "used_by"]]

/-- The page of an enumeration. -/
def enumTemplate : List Part :=
  elementHead "Enum" ++ [.text "URI: ", plain (page "uri_link"), .text "\n"] ++ valueTable
  ++ enumUsages :: originSection
  ++ heading "LinkML Source" :: yamlBlock "source_yaml"

/-- The page of a type. -/
def typeTemplate : List Part :=
  elementHead "Type" ++
    [.text "URI: ", plain (page "uri_link"), .text "\n\n",
     lineIf (page "type_of") "* typeof: " "\n",
     lineIf (page "base") "* base: " "\n",
     .text "* uri: ", plain (page "curie"), .text "\n",
     lineIf (page "repr") "* repr: " "\n",
     lineIf (page "pattern") "* pattern: \x60" "\x60\n",
     lineIf (page "value_range") "* value range: " "\n"]
  ++ originSection
  ++ heading "LinkML Source" :: yamlBlock "source_yaml"

/-- The page of a subset. -/
def subsetTemplate : List Part :=
  elementHead "Subset" ++
    [.text "URI: ", plain (page "uri"), .text "\n",
     listingIf "Classes in subset" "Class" "classes",
     listingIf "Slots in subset" "Slot" "slots",
     listingIf "Enumerations in subset" "Enumeration" "enums",
     listingIf "Types in subset" "Type" "types",
     .text "\n"]

end SchemaPages.Template
