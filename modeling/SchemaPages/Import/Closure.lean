import SchemaPages.Import.Source
import SchemaPages.Import.Stack
import SchemaPages.View.Basic
/-!
# Loading schemas with their imports

Imports are followed depth first, each source once. A schema comes after those that it imports.

* `follow`: the imports of one schema;
* `closure`: everything that a root schema imports;
* `load`, `loadText`: the view of a schema file or text.
-/

namespace SchemaPages.Import

/-- What has been loaded: the keys of all sources met, and the schemas that are complete. -/
structure Loaded where
  seen : List String := []
  schemas : List Schema := []
  deriving Repr

/-- Follows the references of the schema on top of the stack, which lies in `dir`. -/
def follow (fs : FileSystem) (stack : ImportStack) (dir : String) (references : List String)
    (loaded : Loaded) : Except LoadError Loaded :=
  references.foldlM (fun loaded reference =>
    match resolve fs reference dir stack.top with
    | .error e => .error e
    | .ok source =>
      if source.key ∈ loaded.seen then .ok loaded
      else
        match source.read fs with
        | .error e => .error e
        | .ok (schema, schemaDir) =>
          match _h : stack.push source.displayPath with
          | .error e => .error e
          | .ok inner =>
            (follow fs inner schemaDir schema.imports
                { loaded with seen := source.key :: loaded.seen }).map fun inside =>
              { inside with schemas := inside.schemas ++ [schema] }) loaded
termination_by stack.room
decreasing_by exact ImportStack.room_lt_of_push _h

/-- How imports are followed. -/
structure Options where
  limit : Nat := 10
  loadImports : Bool := true
  deriving DecidableEq, Repr

/-- The view of a root schema from the given path, with the imports that it finds from `dir`. -/
def closure (fs : FileSystem) (options : Options) (root : Schema) (path dir : String) :
    Except LoadError View := do
  if !options.loadImports then return View.ofSchemas root []
  let stack ← ({ limit := options.limit } : ImportStack).push path
  let loaded ← follow fs stack dir root.imports { seen := [path] }
  return View.ofSchemas root loaded.schemas

/-- The view of a schema file. -/
def load (fs : FileSystem) (options : Options) (path : String) : Except LoadError View := do
  let canonical ← (fs.canonical path).mapError (.unreadable path)
  let root ← readFile fs canonical path
  closure fs options root canonical (directoryOf canonical)

/-- The view of a schema text, whose imports are found from `dir`. -/
def loadText (fs : FileSystem) (options : Options) (text : String) (format : FileFormat)
    (dir : String) : Except LoadError View := do
  let path := Path.join dir ("<memory>." ++ format.extension)
  let root ← (Schema.read (← parse text format path)).mapError (.invalid path)
  closure fs options root path dir

end SchemaPages.Import
