import SchemaPages.Data.Value
import SchemaPages.Files.Path
/-!
# File systems

A file system as a value: what is where. Operations fail like those of a system, and a failed one
may have done a part of its work before.

* `FileSystem`, `FileSystem.node?`: what is at a place, and where operations fail;
* `FileSystem.locate`: the place that a path leads to;
* `OnDisk`: actions that read and change a file system, with the failures of each kind;
* `readText`, `writeText`, `makeDir`, `makeDirs`, `openWithin`, `list`, `canonical`.
-/

namespace SchemaPages

/-- A place: the steps from the root. -/
abbrev Place := List String

/-- What a file holds. -/
inductive Content where
  | text (s : String)
  /-- Octets that are no text. -/
  | undecodable
  deriving DecidableEq, Repr

/-- What a file holds once text is added to it. -/
def Content.followedBy : Content → String → Content
  | .text s, more => .text (s ++ more)
  | .undecodable, _ => .undecodable

/-- What may be at a place. -/
inductive FileNode where
  | dir
  | file (content : Content)
  deriving DecidableEq, Repr

/-- Why an operation fails. -/
inductive FileError where
  | notFound
  | exists
  | notADirectory
  | isADirectory
  | nameTooLong
  /-- A path with a NUL character. -/
  | badPath
  | notText
  /-- No directory to begin with. -/
  | noTree
  | denied
  deriving DecidableEq, Repr

/-- The message of an error. -/
def FileError.message : FileError → String
  | .notFound => "No such file or directory (os error 2)"
  | .exists => "File exists (os error 17)"
  | .notADirectory => "Not a directory (os error 20)"
  | .isADirectory => "Is a directory (os error 21)"
  | .nameTooLong => "File name too long (os error 36)"
  | .badPath => "file name contained an unexpected NUL byte"
  | .notText => "stream did not contain valid UTF-8"
  | .noTree => "failed to create whole tree"
  | .denied => "Permission denied (os error 13)"

/-- What is where, apart from the root, and where relative paths begin. -/
structure FileSystem where
  nodes : List (Place × FileNode) := []
  workingDirectory : Place := []
  /-- Where reading and writing fails for reasons that do not show in what is there. -/
  faults : List (Place × FileError) := []
  deriving Repr, Inhabited

namespace FileSystem

/-! ## 1. Places -/

/-- What is at a place. -/
def node? (fs : FileSystem) (p : Place) : Option FileNode :=
  if p = [] then some .dir else fs.nodes.lookup p

/-- Puts something at a place. -/
def put (fs : FileSystem) (p : Place) (n : FileNode) : FileSystem :=
  { fs with nodes := insertEntry p n fs.nodes }

theorem node?_put (fs : FileSystem) {p : Place} (n : FileNode) (h : p ≠ []) :
    (fs.put p n).node? p = some n := by
  simp [node?, put, h]

theorem node?_put_of_ne (fs : FileSystem) {p q : Place} (n : FileNode) (h : q ≠ p) :
    (fs.put p n).node? q = fs.node? q := by
  simp [node?, put, lookup_insertEntry_of_ne n fs.nodes h]

/-- The longest name that a step may have, in octets. -/
def longestName : Nat := 255

/-- The longest path, in octets. -/
def longestPath : Nat := 4095

/-- Follows steps from a place. All places on the way have to be directories; the last one need not
exist. -/
def follow (fs : FileSystem) : Place → List String → Except FileError Place
  | p, [] => .ok p
  | p, step :: rest =>
    match fs.node? p with
    | none => .error .notFound
    | some (.file _) => .error .notADirectory
    | some .dir =>
      if step = "." then follow fs p rest
      else if step = ".." then follow fs p.dropLast rest
      else if longestName < step.utf8ByteSize then .error .nameTooLong
      else follow fs (p ++ [step]) rest

/-- The place that a path leads to. -/
def locate (fs : FileSystem) (path : String) : Except FileError Place :=
  if path.toList.contains '\x00' then .error .badPath
  else if path = "" then .error .notFound
  else if longestPath < path.utf8ByteSize then .error .nameTooLong
  else fs.follow (if Path.isAbsolute path then [] else fs.workingDirectory) (Path.steps path)

/-- What a path leads to. A path that ends with a slash has to lead to a directory. -/
def find (fs : FileSystem) (path : String) : Except FileError (Place × FileNode) := do
  let p ← fs.locate path
  match fs.node? p with
  | none => throw .notFound
  | some (.file c) =>
    if Text.finishesWith "/" path then throw .notADirectory else return (p, .file c)
  | some .dir => return (p, .dir)

/-- Whether a path leads to anything. -/
def pathExists (fs : FileSystem) (path : String) : Bool := (fs.find path).isOk

/-- Whether a path leads to a file. -/
def isFile (fs : FileSystem) (path : String) : Bool :=
  match fs.find path with
  | .ok (_, .file _) => true
  | _ => false

/-- Whether a path leads to a directory. -/
def isDir (fs : FileSystem) (path : String) : Bool :=
  match fs.find path with
  | .ok (_, .dir) => true
  | _ => false

/-- Fails where there is a fault. -/
def checkAt (fs : FileSystem) (p : Place) : Except FileError Unit :=
  match fs.faults.lookup p with
  | some e => .error e
  | none => .ok ()

/-! ## 2. Reading -/

/-- A place as an absolute path. -/
def pathOf (p : Place) : String := "/" ++ Text.join "/" p

/-- The absolute path of what a path leads to. -/
def canonical (fs : FileSystem) (path : String) : Except FileError String :=
  (fs.find path).map fun (p, _) => pathOf p

/-- The text of a file. -/
def readText (fs : FileSystem) (path : String) : Except FileError String := do
  let (p, n) ← fs.find path
  match n with
  | .dir => throw .isADirectory
  | .file content =>
    fs.checkAt p
    match content with
    | .undecodable => throw .notText
    | .text s => return s

/-- The names in a directory. -/
def list (fs : FileSystem) (path : String) : Except FileError (List String) := do
  let (p, n) ← fs.find path
  match n with
  | .file _ => throw .notADirectory
  | .dir =>
    fs.checkAt p
    return fs.nodes.filterMap fun (q, _) =>
      if q.dropLast = p then q.getLast? else none

/-- What a file turns out to hold, which is no text where it cannot be read. -/
def contentAt (fs : FileSystem) (p : Place) (content : Content) : Content :=
  match fs.checkAt p with
  | .ok () => content
  | .error _ => .undecodable

/-- The files below a directory, by their paths from there. -/
def filesBelow (fs : FileSystem) (path : String) : List (String × Content) :=
  match fs.find path with
  | .ok (p, .dir) =>
    fs.nodes.filterMap fun
      | (q, .file c) =>
        if p.isPrefixOf q then some (Text.join "/" (q.drop p.length), fs.contentAt q c) else none
      | _ => none
  | _ => []

/-! ## 3. Changes -/

/-- Makes a directory where nothing is. -/
def makeDir (fs : FileSystem) (path : String) : Except FileError FileSystem := do
  let p ← fs.locate path
  match fs.node? p with
  | some _ => throw .exists
  | none =>
    fs.checkAt p
    return fs.put p .dir

/-- Writes a file, new or in place of an old one. -/
def writeText (fs : FileSystem) (path text : String) : Except FileError FileSystem := do
  let p ← fs.locate path
  if fs.node? p = some .dir ∨ Text.finishesWith "/" path then throw .isADirectory
  fs.checkAt p
  return fs.put p (.file (.text text))

/-- Opens a file that text is to be added to, new if nothing is there. -/
def openFile (fs : FileSystem) (path : String) : Except FileError (Place × FileSystem) := do
  let p ← fs.locate path
  if fs.node? p = some .dir ∨ Text.finishesWith "/" path then throw .isADirectory
  fs.checkAt p
  match fs.node? p with
  | some _ => return (p, fs)
  | none => return (p, fs.put p (.file (.text "")))

/-- Adds text at the end of the file at a place, which has been opened. -/
def addText (fs : FileSystem) (p : Place) (text : String) : FileSystem :=
  match fs.node? p with
  | some (.file c) => fs.put p (.file (c.followedBy text))
  | _ => fs

end FileSystem

/-! ## 4. Actions -/

/-- An action that may change a file system and may fail; what it changed before it failed stays. -/
abbrev OnDisk (ε α : Type) := ExceptT ε (StateM FileSystem) α

namespace OnDisk

/-- An action that only looks. -/
def look {ε α : Type} (f : FileSystem → Except ε α) : OnDisk ε α := do
  match f (← get) with
  | .ok a => return a
  | .error e => throw e

/-- A change that is made as a whole or not at all. -/
def change {ε : Type} (f : FileSystem → Except ε FileSystem) : OnDisk ε Unit := do
  match f (← get) with
  | .ok fs => set fs
  | .error e => throw e

/-- An action with another kind of failure. -/
def mapError {ε δ α : Type} (f : ε → δ) (act : OnDisk ε α) : OnDisk δ α := do
  match ← (act.run : StateM FileSystem (Except ε α)) with
  | .ok a => return a
  | .error e => throw (f e)

/-- Makes a directory where none is yet; one that is there already is no failure. -/
def makeDirOnce (path : String) : OnDisk FileError Unit := do
  let fs ← get
  match fs.makeDir path with
  | .ok fs => set fs
  | .error e => if fs.isDir path then return () else throw e

/-- Makes the first of some directories, each of which lies in the next. Those further up are made
only where the first one finds nothing to lie in. -/
def makeDirsAlong : List String → OnDisk FileError Unit
  | [] => throw .noTree
  | path :: above => do
    if path = "" then return ()
    let fs ← get
    match fs.makeDir path with
    | .error .notFound => do
      makeDirsAlong above
      makeDirOnce path
    | _ => makeDirOnce path

/-- A path and the paths above it, nearest first; each is shorter than the one before. -/
def pathAndAbove (path : String) : Nat → List String
  | 0 => [path]
  | bound + 1 =>
    match Path.parent? path with
    | some p => path :: pathAndAbove p bound
    | none => [path]

/-- Makes a directory and those above it that are missing. -/
def makeDirs (path : String) : OnDisk FileError Unit :=
  makeDirsAlong (pathAndAbove path path.length)

/-- Opens a file that text is to be added to. -/
def openOnce (path : String) : OnDisk FileError Place := do
  match (← get).openFile path with
  | .ok (p, fs) => set fs; return p
  | .error e => throw e

/-- The same, making the directories above the file where it cannot be opened without. -/
def openWithin (path : String) : OnDisk FileError Place := do
  match (← get).openFile path, Path.parent? path with
  | .error _, some parent => makeDirs parent; openOnce path
  | _, _ => openOnce path

end OnDisk

end SchemaPages
